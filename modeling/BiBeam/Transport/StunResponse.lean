import BiBeam.Transport.StunMessages

namespace BiBeam

namespace Stun

/-- The value that carries an address, family byte first after a reserved one. -/
def mappedValue (reserved : UInt8) (txnId : TxnId) : IpAddr → BitVec 16 → List UInt8
  | .v4 ip, port =>
    [reserved, 1] ++ (wordBytes 2 (port ^^^ cookiePort) ++ List.zipWith (· ^^^ ·) (wordBytes 4 ip) cookieBytes)
  | .v6 ip, port =>
    [reserved, 2] ++ (wordBytes 2 (port ^^^ cookiePort) ++
      List.zipWith (· ^^^ ·) (wordBytes 16 ip) (cookieBytes ++ txnId.toList))

/-- A Binding success response: the attributes before the mapped address, the
address, what follows it inside the message, and what follows the message. -/
structure BindingResponse where
  txnId : TxnId
  others : List Attribute
  reserved : UInt8
  ip : IpAddr
  port : BitVec 16
  rest : List UInt8
  trailing : List UInt8
  apart : ∀ attr ∈ others, attr.type ≠ attrXorMappedAddress
  fits : (mappedBody others (mappedValue reserved txnId ip port) rest).length < 2 ^ 16

def BindingResponse.body (response : BindingResponse) : List UInt8 :=
  mappedBody response.others (mappedValue response.reserved response.txnId response.ip response.port) response.rest

def BindingResponse.bytes (response : BindingResponse) : List UInt8 :=
  messageHead response.body.length response.txnId ++ (response.body ++ response.trailing)

section Header

variable {msgLen : Nat} {txnId : TxnId} {bytes : List UInt8}

/-- The header's checks, one after the other, on a long enough buffer. -/
theorem parseHeader_run {msgType len : BitVec 16} {cookie : BitVec 32} {id body : List UInt8}
    (long : stunHeaderLen ≤ bytes.length) (atType : wordAt 2 bytes 0 = some msgType)
    (atLen : wordAt 2 bytes 2 = some len) (atCookie : wordAt 4 bytes 4 = some cookie)
    (atTxn : Slice.get bytes 8 20 = some id) (atBody : Slice.get bytes stunHeaderLen bytes.length = some body) :
    parseHeader bytes txnId =
      if msgType ≠ messageTypeBindingSuccess then
        some (.error (.responseMalformed "message type is not Binding Success"))
      else if cookie ≠ magicCookie then some (.error (.responseMalformed "magic cookie mismatch"))
      else if id ≠ txnId.toList then some (.error .transactionMismatch)
      else some (.ok (len.toNat, body)) := by
  rw [parseHeader, if_neg (Nat.not_lt.mpr long), atType, atLen, atCookie, atTxn, atBody]
  simp only [Option.bind_eq_bind, Option.bind_some]

theorem parseHeader_messageHead (fits : msgLen < 2 ^ 16) (back : List UInt8) :
    parseHeader (messageHead msgLen txnId ++ back) txnId = some (.ok (msgLen, back)) := by
  generalize whole : messageHead msgLen txnId ++ back = bytes
  have split : bytes = wordBytes 2 messageTypeBindingSuccess ++ (wordBytes 2 (BitVec.ofNat 16 msgLen) ++
      (wordBytes 4 magicCookie ++ (txnId.toList ++ back))) := by
    rw [← whole]
    simp only [messageHead, List.append_assoc]
  have long : bytes.length = stunHeaderLen + back.length := by
    rw [← whole, List.length_append, length_messageHead, stunHeaderLen]
  have atType := wordAt_append 2 [] messageTypeBindingSuccess
    (wordBytes 2 (BitVec.ofNat 16 msgLen) ++ (wordBytes 4 magicCookie ++ (txnId.toList ++ back)))
  have atLen := wordAt_append 2 (wordBytes 2 messageTypeBindingSuccess) (BitVec.ofNat 16 msgLen)
    (wordBytes 4 magicCookie ++ (txnId.toList ++ back))
  have atCookie := wordAt_append 4 (wordBytes 2 messageTypeBindingSuccess ++ wordBytes 2 (BitVec.ofNat 16 msgLen))
    magicCookie (txnId.toList ++ back)
  have atTxn := Slice.get_append (wordBytes 2 messageTypeBindingSuccess ++
    (wordBytes 2 (BitVec.ofNat 16 msgLen) ++ wordBytes 4 magicCookie)) txnId.toList back
  have atBody := Slice.get_append (messageHead msgLen txnId) back []
  simp only [List.append_assoc, List.nil_append, List.append_nil, List.length_append, length_wordBytes, List.length_nil,
    Vector.length_toList, ← split, whole, Nat.reduceAdd] at atType atLen atCookie atTxn atBody
  rw [length_messageHead, ← stunHeaderLen, ← long] at atBody
  have len : (BitVec.ofNat 16 msgLen).toNat = msgLen := by rw [BitVec.toNat_ofNat, Nat.mod_eq_of_lt fits]
  rw [parseHeader_run (by omega) atType atLen atCookie atTxn atBody, len]
  simp only [ne_eq, not_true_eq_false, if_false]

/-- Every byte string is read without an access outside it; one that is accepted
starts with the header of a Binding success response to the request. -/
theorem parseHeader_sound (bytes : List UInt8) (txnId : TxnId) :
    ∃ result, parseHeader bytes txnId = some result ∧ ∀ msgLen body, result = .ok (msgLen, body) →
      bytes = messageHead msgLen txnId ++ body ∧ msgLen < 2 ^ 16 := by
  by_cases short : bytes.length < stunHeaderLen
  · exact ⟨_, by rw [parseHeader, if_pos short], fun msgLen body found => by cases found⟩
  have long : 20 ≤ bytes.length := Nat.le_of_not_lt short
  obtain ⟨msgType, atType⟩ := @exists_wordAt 2 0 bytes (by omega)
  obtain ⟨msgLen, atLen⟩ := @exists_wordAt 2 2 bytes (by omega)
  obtain ⟨cookie, atCookie⟩ := @exists_wordAt 4 4 bytes (by omega)
  obtain ⟨id, atTxn, _⟩ := Slice.exists_get (show 8 ≤ 20 by omega) long
  obtain ⟨body, atBody, _⟩ := Slice.exists_get long le_rfl
  rw [parseHeader_run long atType atLen atCookie atTxn atBody]
  by_cases otherType : msgType ≠ messageTypeBindingSuccess
  · exact ⟨_, if_pos otherType, fun msgLen body found => by cases found⟩
  rw [if_neg otherType]
  by_cases otherCookie : cookie ≠ magicCookie
  · exact ⟨_, if_pos otherCookie, fun msgLen body found => by cases found⟩
  rw [if_neg otherCookie]
  by_cases otherTxn : id ≠ txnId.toList
  · exact ⟨_, if_pos otherTxn, fun msgLen body found => by cases found⟩
  rw [if_neg otherTxn]
  refine ⟨_, rfl, fun len found same => ?_⟩
  cases same
  have type := wordAt_eq_some_iff.mp (not_not.mp otherType ▸ atType)
  have marked := wordAt_eq_some_iff.mp (not_not.mp otherCookie ▸ atCookie)
  have answers := Slice.get_trans marked (not_not.mp otherTxn ▸ atTxn)
  have whole := Slice.get_trans type (Slice.get_trans (wordAt_eq_some_iff.mp atLen) (Slice.get_trans answers atBody))
  have same := Option.some.inj ((Slice.get_whole bytes).symm.trans whole)
  refine ⟨?_, msgLen.isLt⟩
  rw [same, messageHead, BitVec.ofNat_toNat, BitVec.setWidth_eq]
  simp only [List.append_assoc]

end Header

section Address

variable {value : List UInt8} {txnId : TxnId} {port : BitVec 16}

theorem parseXorAddressIpv4_total : ∃ result, parseXorAddressIpv4 value port = some result := by
  by_cases short : value.length < 8
  · exact ⟨_, by rw [parseXorAddressIpv4, if_pos short]⟩
  · obtain ⟨octets, read⟩ := @exists_xorAt value cookieBytes 4 (by rw [cookieBytes, BigEndian.length_bytes]; omega)
    exact ⟨_, by rw [parseXorAddressIpv4, if_neg short, read]; rfl⟩

theorem parseXorAddressIpv6_total : ∃ result, parseXorAddressIpv6 value port txnId = some result := by
  by_cases short : value.length < 20
  · exact ⟨_, by rw [parseXorAddressIpv6, if_pos short]⟩
  · obtain ⟨cookiePart, first⟩ := @exists_xorAt value cookieBytes 4 (by rw [cookieBytes, BigEndian.length_bytes]; omega)
    obtain ⟨txnPart, second⟩ := @exists_xorAt value txnId.toList 8 (by rw [Vector.length_toList]; omega)
    exact ⟨_, by rw [parseXorAddressIpv6, if_neg short, first, second]; rfl⟩

theorem parseXorMappedAddress_total (value : List UInt8) (txnId : TxnId) :
    ∃ result, parseXorMappedAddress value txnId = some result := by
  by_cases short : value.length < 4
  · exact ⟨_, by rw [parseXorMappedAddress, if_pos short]⟩
  · have atFamily := List.getElem?_eq_getElem (show 1 < value.length by omega)
    obtain ⟨portXored, atPort⟩ := @exists_wordAt 2 2 value (by omega)
    rw [parseXorMappedAddress, if_neg short, atFamily, atPort]
    simp only [Option.bind_eq_bind, Option.bind_some]
    by_cases four : value[1] = 1
    · rw [if_pos four]
      exact parseXorAddressIpv4_total
    · rw [if_neg four]
      by_cases six : value[1] = 2
      · rw [if_pos six]
        exact parseXorAddressIpv6_total
      · exact ⟨_, if_neg six⟩

/-- What the two bytes in front of the port and the port itself lead to. -/
theorem parseXorMappedAddress_head (reserved family : UInt8) (octets : List UInt8) (txnId : TxnId) :
    parseXorMappedAddress ([reserved, family] ++ (wordBytes 2 (port ^^^ cookiePort) ++ octets)) txnId =
      if family = 1 then
        parseXorAddressIpv4 ([reserved, family] ++ (wordBytes 2 (port ^^^ cookiePort) ++ octets)) port
      else if family = 2 then
        parseXorAddressIpv6 ([reserved, family] ++ (wordBytes 2 (port ^^^ cookiePort) ++ octets)) port txnId
      else some (.error (.responseMalformed "XOR-MAPPED-ADDRESS unknown family")) := by
  have atPort : wordAt 2 ([reserved, family] ++ (wordBytes 2 (port ^^^ cookiePort) ++ octets)) 2 =
      some (port ^^^ cookiePort) := wordAt_append 2 [reserved, family] (port ^^^ cookiePort) octets
  have atFamily : ([reserved, family] ++ (wordBytes 2 (port ^^^ cookiePort) ++ octets))[1]? = some family := rfl
  have long : ¬([reserved, family] ++ (wordBytes 2 (port ^^^ cookiePort) ++ octets)).length < 4 := by
    simp only [List.length_append, length_wordBytes, List.length_cons]
    omega
  have twice : port ^^^ cookiePort ^^^ cookiePort = port := by
    rw [BitVec.xor_assoc, BitVec.xor_self, BitVec.xor_zero]
  rw [parseXorMappedAddress, if_neg long, atFamily, atPort]
  simp only [Option.bind_eq_bind, Option.bind_some, twice]

theorem length_cookieBytes : cookieBytes.length = 4 :=
  BigEndian.length_bytes 4 magicCookie.toNat

theorem parseXorAddressIpv4_mapped {front : List UInt8} (place : front.length = 4) (ip : BitVec 32) :
    parseXorAddressIpv4 (front ++ List.zipWith (· ^^^ ·) (wordBytes 4 ip) cookieBytes) port =
      some (.ok (.new (.v4 ip) port)) := by
  have size : (wordBytes 4 ip).length = cookieBytes.length := by rw [length_wordBytes, length_cookieBytes]
  have octets := xorAt_append front [] size
  have long : ¬(front ++ List.zipWith (· ^^^ ·) (wordBytes 4 ip) cookieBytes).length < 8 := by
    simp [place, length_cookieBytes]
  have back := ofNat_value_wordBytes 4 ip
  rw [List.append_nil, place] at octets
  rw [parseXorAddressIpv4, if_neg long, octets]
  simp only [Option.bind_eq_bind, Option.bind_some, back]

theorem parseXorAddressIpv6_mapped {front : List UInt8} (place : front.length = 4) (ip : BitVec 128) :
    parseXorAddressIpv6 (front ++ List.zipWith (· ^^^ ·) (wordBytes 16 ip) (cookieBytes ++ txnId.toList)) port txnId =
      some (.ok (.new (.v6 ip) port)) := by
  obtain ⟨first, second, split, size, size'⟩ : ∃ first second, wordBytes 16 ip = first ++ second ∧
      first.length = cookieBytes.length ∧ second.length = txnId.toList.length := by
    refine ⟨(wordBytes 16 ip).take 4, (wordBytes 16 ip).drop 4, (List.take_append_drop 4 _).symm, ?_, ?_⟩
    · rw [List.length_take, length_wordBytes, length_cookieBytes]
      rfl
    · rw [List.length_drop, length_wordBytes, Vector.length_toList]
  have cookiePart := xorAt_append front (List.zipWith (· ^^^ ·) second txnId.toList) size
  have txnPart := xorAt_append (front ++ List.zipWith (· ^^^ ·) first cookieBytes) [] size'
  have place' : (front ++ List.zipWith (· ^^^ ·) first cookieBytes).length = 8 := by
    simp [place, size, length_cookieBytes]
  have long : ¬(front ++ (List.zipWith (· ^^^ ·) first cookieBytes ++
      List.zipWith (· ^^^ ·) second txnId.toList)).length < 20 := by
    simp [place, size, size', length_cookieBytes]
  have back := ofNat_value_wordBytes 16 ip
  rw [List.append_nil, place', List.append_assoc] at txnPart
  rw [place] at cookiePart
  rw [split] at back
  rw [split, List.zipWith_append size, parseXorAddressIpv6, if_neg long, cookiePart, txnPart]
  simp only [Option.bind_eq_bind, Option.bind_some, back]

/-- Decoding a mapped address gives the address back. -/
theorem parseXorMappedAddress_mappedValue (reserved : UInt8) (txnId : TxnId) (ip : IpAddr) (port : BitVec 16) :
    parseXorMappedAddress (mappedValue reserved txnId ip port) txnId = some (.ok (.new ip port)) := by
  have place (family : UInt8) : ([reserved, family] ++ wordBytes 2 (port ^^^ cookiePort)).length = 4 := by simp
  cases ip with
  | v4 ip =>
    rw [mappedValue, parseXorMappedAddress_head, if_pos rfl, ← List.append_assoc]
    exact parseXorAddressIpv4_mapped (place 1) ip
  | v6 ip =>
    rw [mappedValue, parseXorMappedAddress_head, if_neg (by decide), if_pos rfl, ← List.append_assoc]
    exact parseXorAddressIpv6_mapped (place 2) ip

example : parseXorMappedAddress [0, 1, 0xEB, 0x7E, 0xEA, 0x12, 0xD5, 0x6F] (.replicate 12 0x11) =
    some (.ok (.v4 0xCB00712D 51820)) := by
  decide

end Address

/-- The response is read back. -/
theorem BindingResponse.parse (response : BindingResponse) :
    parseBindingResponse response.bytes response.txnId = some (.ok (.new response.ip response.port)) := by
  have header := @parseHeader_messageHead response.body.length response.txnId response.fits
    (response.body ++ response.trailing)
  have found : findXorMappedAddress response.body =
      some (.ok (mappedValue response.reserved response.txnId response.ip response.port)) := by
    refine findXorMappedAddress_complete ⟨response.others, response.rest, rfl, ?_, response.apart⟩
    have fits := response.fits
    simp only [mappedBody, List.length_append] at fits
    omega
  have long : ¬(response.body ++ response.trailing).length < response.body.length := by
    rw [List.length_append]
    omega
  have body := Slice.get_append [] response.body response.trailing
  rw [List.nil_append, List.length_nil, Nat.zero_add] at body
  rw [parseBindingResponse, BindingResponse.bytes, header]
  simp only [Option.bind_eq_bind, Option.bind_some]
  rw [if_neg long, body, Option.bind_some, found, Option.bind_some]
  exact parseXorMappedAddress_mappedValue response.reserved response.txnId response.ip response.port

/-- Reading never leaves the buffer, and an address comes only from a Binding
success response to the request that carries a mapped address in its message. -/
theorem parseBindingResponse_sound (bytes : List UInt8) (txnId : TxnId) :
    ∃ result, parseBindingResponse bytes txnId = some result ∧ ∀ address, result = .ok address →
      ∃ body value trailing, bytes = messageHead body.length txnId ++ (body ++ trailing) ∧ body.length < 2 ^ 16 ∧
        MappedIn body value := by
  obtain ⟨head, read, header⟩ := parseHeader_sound bytes txnId
  rw [parseBindingResponse, read]
  simp only [Option.bind_eq_bind, Option.bind_some]
  cases head with
  | error error => exact ⟨.error error, rfl, fun address found => by cases found⟩
  | ok accepted =>
    obtain ⟨msgLen, rest⟩ := accepted
    obtain ⟨whole, fits⟩ := header msgLen rest rfl
    by_cases short : rest.length < msgLen
    · exact ⟨_, if_pos short, fun address found => by cases found⟩
    obtain ⟨body, cut, size⟩ := Slice.exists_get (Nat.zero_le msgLen) (Nat.le_of_not_lt short)
    obtain ⟨outcome, scanned, scan⟩ := findFrom_sound body 0
    rw [Nat.sub_zero] at size
    have split : rest = body ++ rest.drop msgLen := by
      obtain ⟨front, back, rest_eq, place, _⟩ := Slice.get_eq_some_iff.mp cut
      rw [List.eq_nil_of_length_eq_zero place, List.nil_append] at rest_eq
      rw [rest_eq, List.drop_left' size]
    simp only [if_neg short, cut, Option.bind_some, findXorMappedAddress, scanned]
    cases outcome with
    | error error => exact ⟨.error error, rfl, fun address found => by cases found⟩
    | ok value =>
      obtain ⟨result, decoded⟩ := parseXorMappedAddress_total value txnId
      refine ⟨result, decoded, fun address _ => ⟨body, value, rest.drop msgLen, ?_, ?_, scan value rfl⟩⟩
      · rw [← split, size]
        exact whole
      · rwa [size]

theorem parseBindingResponse_exact :
    (∀ response : BindingResponse,
      parseBindingResponse response.bytes response.txnId = some (.ok (.new response.ip response.port))) ∧
    ∀ (bytes : List UInt8) (txnId : TxnId), ∃ result, parseBindingResponse bytes txnId = some result ∧
      ∀ address, result = .ok address → ∃ body value trailing,
        bytes = messageHead body.length txnId ++ (body ++ trailing) ∧ body.length < 2 ^ 16 ∧ MappedIn body value :=
  ⟨BindingResponse.parse, parseBindingResponse_sound⟩

end Stun

end BiBeam
