import BiBeam.Lib.Disk
import BiBeam.Lib.Reach
import BiBeam.Transport.StunResponse

namespace BiBeam

/-- The failures of a discovery: those of the socket, of the wait and of the response. -/
inductive DiscoverError
  | io (error : IoError)
  | timeout (wait : Duration)
  | response (error : StunError)

namespace Stun

def messageTypeBindingRequest : BitVec 16 := 0x0001

/-- The length of the buffer that a response is received into. -/
def responseBufLen : Nat := 512

def buildBindingRequest (txnId : TxnId) : List UInt8 :=
  wordBytes 2 messageTypeBindingRequest ++ (wordBytes 2 0 ++ (wordBytes 4 magicCookie ++ txnId.toList))

/-- What becomes of a discovery: the socket may refuse the request, and within
the wait it yields nothing, an error or a datagram. -/
def discoverPublicAddress (txnId : TxnId) (timeout : Duration) (refused : Option IoError)
    (received : Option (Except IoError (List UInt8))) : Option (Except DiscoverError SocketAddr) :=
  match refused with
  | some error => some (.error (.io error))
  | none =>
    match received with
    | none => some (.error (.timeout timeout))
    | some (.error error) => some (.error (.io error))
    | some (.ok datagram) =>
      (parseBindingResponse (datagram.take responseBufLen) txnId).map (Except.mapError .response)

/-- The bytes name a transaction, where a request and a response name theirs. -/
def Names (bytes : List UInt8) (txnId : TxnId) : Prop :=
  Slice.get bytes 8 20 = some txnId.toList

theorem Names.eq {bytes : List UInt8} {first second : TxnId} (one : Names bytes first) (other : Names bytes second) :
    first = second :=
  Vector.toList_inj.mp (Option.some.inj (one.symm.trans other))

theorem buildBindingRequest_names (txnId : TxnId) : Names (buildBindingRequest txnId) txnId := by
  have got := Slice.get_append (wordBytes 2 messageTypeBindingRequest ++ (wordBytes 2 0 ++ wordBytes 4 magicCookie))
    txnId.toList []
  simpa only [Names, buildBindingRequest, List.length_append, length_wordBytes, Vector.length_toList, List.append_nil,
    List.append_assoc] using got

theorem messageHead_names (msgLen : Nat) (txnId : TxnId) (back : List UInt8) :
    Names (messageHead msgLen txnId ++ back) txnId := by
  have got := Slice.get_append (wordBytes 2 messageTypeBindingSuccess ++
    (wordBytes 2 (BitVec.ofNat 16 msgLen) ++ wordBytes 4 magicCookie)) txnId.toList back
  simpa only [Names, messageHead, List.length_append, length_wordBytes, Vector.length_toList,
    List.append_assoc] using got

section Parse

variable {txnId : TxnId} {response : BindingResponse}

/-- An address comes only from bytes that name the transaction, however many of them are read. -/
theorem names_of_parse {bytes : List UInt8} {limit : Nat} {address : SocketAddr}
    (parsed : parseBindingResponse (bytes.take limit) txnId = some (.ok address)) : Names bytes txnId := by
  obtain ⟨result, read, sound⟩ := parseBindingResponse_sound (bytes.take limit) txnId
  obtain ⟨body, value, trailing, whole, _⟩ := sound address (Option.some.inj (read.symm.trans parsed))
  have named := messageHead_names body.length txnId (body ++ trailing ++ bytes.drop limit)
  rwa [← List.append_assoc, ← whole, List.take_append_drop] at named

/-- A header that is taken for one transaction is a mismatch for any other. -/
theorem parseHeader_other {bytes : List UInt8} {sender : TxnId} {accepted : Nat × List UInt8}
    (taken : parseHeader bytes sender = some (.ok accepted)) (apart : sender ≠ txnId) :
    parseHeader bytes txnId = some (.error .transactionMismatch) := by
  by_cases short : bytes.length < stunHeaderLen
  · rw [parseHeader, if_pos short] at taken
    cases taken
  have long : 20 ≤ bytes.length := Nat.le_of_not_lt short
  obtain ⟨msgType, atType⟩ := @exists_wordAt 2 0 bytes (by omega)
  obtain ⟨msgLen, atLen⟩ := @exists_wordAt 2 2 bytes (by omega)
  obtain ⟨cookie, atCookie⟩ := @exists_wordAt 4 4 bytes (by omega)
  obtain ⟨id, atTxn, _⟩ := Slice.exists_get (show 8 ≤ 20 by omega) long
  obtain ⟨body, atBody, _⟩ := Slice.exists_get long le_rfl
  rw [parseHeader_run long atType atLen atCookie atTxn atBody] at taken ⊢
  by_cases otherType : msgType ≠ messageTypeBindingSuccess
  · rw [if_pos otherType] at taken
    cases taken
  by_cases otherCookie : cookie ≠ magicCookie
  · rw [if_neg otherType, if_pos otherCookie] at taken
    cases taken
  rw [if_neg otherType, if_neg otherCookie] at taken ⊢
  by_cases same : id = sender.toList
  · rw [if_pos fun equal => apart (Vector.toList_inj.mp (same.symm.trans equal))]
  · rw [if_pos same] at taken
    cases taken

/-- What is received of a response: its header and the start of what follows. -/
theorem BindingResponse.take_bytes (response : BindingResponse) :
    response.bytes.take responseBufLen =
      messageHead response.body.length response.txnId ++ (response.body ++ response.trailing).take 492 := by
  rw [BindingResponse.bytes, List.take_append, length_messageHead, responseBufLen,
    List.take_of_length_le (by rw [length_messageHead]; omega)]

theorem parse_other (apart : response.txnId ≠ txnId) :
    parseBindingResponse (response.bytes.take responseBufLen) txnId = some (.error .transactionMismatch) := by
  have taken := @parseHeader_messageHead response.body.length response.txnId response.fits
    ((response.body ++ response.trailing).take 492)
  rw [parseBindingResponse, response.take_bytes, parseHeader_other taken apart]
  rfl

/-- A response whose message fits into the buffer is read back from what is received of it. -/
theorem parse_fitting (fits : stunHeaderLen + response.body.length ≤ responseBufLen) :
    parseBindingResponse (response.bytes.take responseBufLen) response.txnId =
      some (.ok (.new response.ip response.port)) := by
  rw [stunHeaderLen, responseBufLen] at fits
  have kept : (response.body ++ response.trailing).take 492 =
      response.body ++ response.trailing.take (492 - response.body.length) := by
    rw [List.take_append, List.take_of_length_le (by omega)]
  rw [response.take_bytes, kept]
  exact BindingResponse.parse { response with trailing := response.trailing.take (492 - response.body.length) }

theorem parse_cut (cut : responseBufLen < stunHeaderLen + response.body.length) :
    parseBindingResponse (response.bytes.take responseBufLen) response.txnId =
      some (.error (.responseMalformed "body shorter than declared length")) := by
  rw [stunHeaderLen, responseBufLen] at cut
  have short : ((response.body ++ response.trailing).take 492).length < response.body.length := by
    rw [List.length_take]
    omega
  have taken := @parseHeader_messageHead response.body.length response.txnId response.fits
    ((response.body ++ response.trailing).take 492)
  rw [parseBindingResponse, response.take_bytes, taken]
  simp only [Option.bind_eq_bind, Option.bind_some, if_pos short]

end Parse

/-- A response of the server, with the number of the request it answers. -/
structure ServedResponse where
  request : Nat
  response : BindingResponse

/-- A datagram on its way to the socket. -/
inductive StunDatagram
  | copy (reply : ServedResponse)
  | stray (bytes : List UInt8)

def StunDatagram.bytes : StunDatagram → List UInt8
  | copy reply => reply.response.bytes
  | stray bytes => bytes

/-- The transactions of the requests that left the socket and the responses of
the server, oldest first, the socket's buffer, and the discoveries that wait. -/
structure StunNet where
  asked : List TxnId
  replies : List ServedResponse
  inbox : List StunDatagram
  waiting : List Nat

def StunNet.new : StunNet :=
  ⟨[], [], [], []⟩

inductive StunEvent
  | asked (txnId : TxnId)
  /-- A discovery ended because the socket refused to send its request. -/
  | unsent (wait : Duration) (refused : IoError) (result : Option (Except DiscoverError SocketAddr))
  /-- The server got a request from this address. -/
  | served (request : Nat) (ip : IpAddr) (port : BitVec 16)
  | arrived (datagram : StunDatagram)
  /-- A discovery ended: what it took from the socket and what it returned. -/
  | ended (request : Nat) (wait : Duration) (took : Option (Except IoError StunDatagram))
      (result : Option (Except DiscoverError SocketAddr))

/-- Nobody but the server answers a transaction that is waited for. -/
def StunNet.Secret (net : StunNet) (bytes : List UInt8) : Prop :=
  ∀ request ∈ net.waiting, ∀ txnId, net.asked[request]? = some txnId → ¬Names bytes txnId

/-- Discoveries over one socket, one after the other or at the same time. A
transaction drawn at random is a new one. The server may get a request any
number of times and from any address, as the NAT will have it. Copies of its
responses arrive in any order and number, and others send what they like, but
without a transaction that is waited for. -/
inductive StunStep : StunNet → StunEvent → StunNet → Prop
  | ask {net txnId} : txnId ∉ net.asked → (∀ datagram ∈ net.inbox, ¬Names datagram.bytes txnId) →
      StunStep net (.asked txnId)
        { net with asked := net.asked ++ [txnId], waiting := net.waiting ++ [net.asked.length] }
  | refuse {net txnId wait refused received} :
      StunStep net (.unsent wait refused (discoverPublicAddress txnId wait (some refused) received)) net
  | serve {net request txnId response} : net.asked[request]? = some txnId →
      Names (buildBindingRequest txnId) response.txnId →
      StunStep net (.served request response.ip response.port)
        { net with replies := net.replies ++ [⟨request, response⟩] }
  | deliver {net reply} : reply ∈ net.replies →
      StunStep net (.arrived (.copy reply)) { net with inbox := net.inbox ++ [.copy reply] }
  | intrude {net bytes} : net.Secret bytes →
      StunStep net (.arrived (.stray bytes)) { net with inbox := net.inbox ++ [.stray bytes] }
  | take {net request txnId datagram rest wait} : request ∈ net.waiting → net.asked[request]? = some txnId →
      net.inbox = datagram :: rest →
      StunStep net (.ended request wait (some (.ok datagram))
        (discoverPublicAddress txnId wait none (some (.ok datagram.bytes))))
        { net with inbox := rest, waiting := net.waiting.erase request }
  | giveUp {net request txnId wait} {failure : Option IoError} : request ∈ net.waiting →
      net.asked[request]? = some txnId →
      StunStep net (.ended request wait (failure.map .error)
        (discoverPublicAddress txnId wait none (failure.map .error)))
        { net with waiting := net.waiting.erase request }

/-- What a discovery makes of a copy of a response. -/
def copyTold (request : Nat) (reply : ServedResponse) : Except DiscoverError SocketAddr :=
  if reply.request ≠ request then .error (.response .transactionMismatch)
  else if stunHeaderLen + reply.response.body.length ≤ responseBufLen then
    .ok (.new reply.response.ip reply.response.port)
  else .error (.response (.responseMalformed "body shorter than declared length"))

/-- What a discovery returns for what it took from the socket. -/
def Told (request : Nat) (wait : Duration) :
    Option (Except IoError StunDatagram) → Option (Except DiscoverError SocketAddr) → Prop
  | none, result => result = some (.error (.timeout wait))
  | some (.error error), result => result = some (.error (.io error))
  | some (.ok (.stray _)), result => ∃ error, result = some (.error (.response error))
  | some (.ok (.copy reply)), result => result = some (copyTold request reply)

/-- An address comes from a response to the discovery's own request. -/
theorem Told.of_address {request : Nat} {wait : Duration} {took : Option (Except IoError StunDatagram)}
    {address : SocketAddr} (told : Told request wait took (some (.ok address))) :
    ∃ reply, took = some (.ok (.copy reply)) ∧ reply.request = request ∧
      address = .new reply.response.ip reply.response.port := by
  cases took with
  | none => cases told
  | some received =>
    cases received with
    | error error => cases told
    | ok datagram =>
      cases datagram with
      | stray bytes =>
        obtain ⟨error, failed⟩ := told
        cases failed
      | copy reply =>
        have copied : some (.ok address) = some (copyTold request reply) := told
        rw [copyTold] at copied
        split at copied
        · cases copied
        · rename_i same
          split at copied
          · cases copied
            exact ⟨reply, rfl, not_not.mp same, rfl⟩
          · cases copied

/-- What holds after a run. -/
structure StunKept (events : List StunEvent) (net : StunNet) : Prop where
  distinct : net.asked.Nodup
  waiting : ∀ request ∈ net.waiting, request < net.asked.length
  replies : ∀ reply ∈ net.replies, net.asked[reply.request]? = some reply.response.txnId ∧
    .served reply.request reply.response.ip reply.response.port ∈ events
  copies : ∀ reply, .copy reply ∈ net.inbox → reply ∈ net.replies
  strays : ∀ bytes, .stray bytes ∈ net.inbox → net.Secret bytes
  told : ∀ request wait took result, .ended request wait took result ∈ events → Told request wait took result ∧
    ∀ reply, took = some (.ok (.copy reply)) →
      .served reply.request reply.response.ip reply.response.port ∈ events

section Step

variable {txnId : TxnId} {request : Nat} {reply : ServedResponse} {wait : Duration}

theorem discover_copy {asked : List TxnId} (distinct : asked.Nodup) (mine : asked[request]? = some txnId)
    (theirs : asked[reply.request]? = some reply.response.txnId) :
    discoverPublicAddress txnId wait none (some (.ok (StunDatagram.copy reply).bytes)) =
      some (copyTold request reply) := by
  rw [discoverPublicAddress, StunDatagram.bytes, copyTold]
  by_cases same : reply.request = request
  · have one : reply.response.txnId = txnId := by
      rw [same] at theirs
      exact Option.some.inj (theirs.symm.trans mine)
    rw [if_neg (not_not.mpr same), ← one]
    by_cases fits : stunHeaderLen + reply.response.body.length ≤ responseBufLen
    · rw [if_pos fits, parse_fitting fits]
      rfl
    · rw [if_neg fits, parse_cut (Nat.lt_of_not_le fits)]
      rfl
  · have apart : reply.response.txnId ≠ txnId := by
      intro equal
      have inside := (List.getElem?_eq_some_iff.mp theirs).1
      exact same ((List.getElem?_inj inside distinct).mp (by rw [theirs, mine, equal]))
    rw [if_pos same, parse_other apart]
    rfl

theorem discover_stray {bytes : List UInt8} (unknown : ¬Names bytes txnId) :
    ∃ error, discoverPublicAddress txnId wait none (some (.ok (StunDatagram.stray bytes).bytes)) =
      some (.error (.response error)) := by
  rw [discoverPublicAddress, StunDatagram.bytes]
  obtain ⟨result, parsed, _⟩ := parseBindingResponse_sound (bytes.take responseBufLen) txnId
  cases result with
  | error error => exact ⟨error, by rw [parsed]; rfl⟩
  | ok address => exact absurd (names_of_parse parsed) unknown

end Step

namespace StunKept

variable {events : List StunEvent} {net next : StunNet} {event : StunEvent} {request : Nat} {wait : Duration}
  {took : Option (Except IoError StunDatagram)} {result : Option (Except DiscoverError SocketAddr)}

theorem start : StunKept [] .new where
  distinct := List.nodup_nil
  waiting _ member := absurd member List.not_mem_nil
  replies _ member := absurd member List.not_mem_nil
  copies _ member := absurd member List.not_mem_nil
  strays _ member := absurd member List.not_mem_nil
  told _ _ _ _ member := absurd member List.not_mem_nil

/-- A discovery that ends returns what it should for what it took. -/
theorem told_take (kept : StunKept events net) {txnId : TxnId} {datagram : StunDatagram} {rest : List StunDatagram}
    (waits : request ∈ net.waiting)
    (mine : net.asked[request]? = some txnId) (first : net.inbox = datagram :: rest) :
    Told request wait (some (.ok datagram)) (discoverPublicAddress txnId wait none (some (.ok datagram.bytes))) := by
  have member : datagram ∈ net.inbox := first ▸ List.mem_cons_self
  cases datagram with
  | copy reply => exact discover_copy kept.distinct mine (kept.replies reply (kept.copies reply member)).1
  | stray bytes => exact discover_stray (kept.strays bytes member request waits txnId mine)

theorem told_giveUp (request : Nat) (txnId : TxnId) (wait : Duration) (failure : Option IoError) :
    Told request wait (failure.map .error) (discoverPublicAddress txnId wait none (failure.map .error)) := by
  cases failure with
  | none => exact rfl
  | some error => exact rfl

/-- What is still secret when a discovery has ended. -/
theorem secret_erase {bytes : List UInt8} {inbox : List StunDatagram} (request : Nat) (secret : net.Secret bytes) :
    StunNet.Secret { net with inbox := inbox, waiting := net.waiting.erase request } bytes :=
  fun other waits => secret other (List.mem_of_mem_erase waits)

/-- The end of a discovery changes nothing but the buffer, which only loses
datagrams, and who waits. -/
theorem ends (kept : StunKept events net) {inbox : List StunDatagram}
    (fewer : ∀ datagram ∈ inbox, datagram ∈ net.inbox)
    (known : ∀ reply, took = some (.ok (.copy reply)) → reply ∈ net.replies)
    (told : Told request wait took result) :
    StunKept (events ++ [.ended request wait took result])
      { net with inbox := inbox, waiting := net.waiting.erase request } where
  distinct := kept.distinct
  waiting other waits := kept.waiting other (List.mem_of_mem_erase waits)
  replies reply member := (kept.replies reply member).imp_right (List.mem_append_left _)
  copies reply member := kept.copies reply (fewer _ member)
  strays bytes member := secret_erase request (kept.strays bytes (fewer _ member))
  told := by
    intro other wait' took' result' member
    rcases List.mem_append.mp member with before | now
    · exact (kept.told other wait' took' result' before).imp_right fun served reply copied =>
        List.mem_append_left _ (served reply copied)
    · cases List.mem_singleton.mp now
      exact ⟨told, fun reply copied => List.mem_append_left _ (kept.replies reply (known reply copied)).2⟩

/-- A step that ends no discovery leaves what the ended ones were told. -/
theorem told_later (kept : StunKept events net)
    (quiet : ∀ request wait took result, event ≠ .ended request wait took result)
    (member : .ended request wait took result ∈ events ++ [event]) :
    Told request wait took result ∧ ∀ reply, took = some (.ok (.copy reply)) →
      .served reply.request reply.response.ip reply.response.port ∈ events ++ [event] := by
  rcases List.mem_append.mp member with before | now
  · exact (kept.told request wait took result before).imp_right fun served reply copied =>
      List.mem_append_left _ (served reply copied)
  · exact absurd (List.mem_singleton.mp now).symm (quiet request wait took result)

theorem step (kept : StunKept events net) (stepped : StunStep net event next) :
    StunKept (events ++ [event]) next := by
  cases stepped with
  | @ask txnId fresh unknown =>
    have before {request : Nat} {id : TxnId} (asked : net.asked[request]? = some id) :
        (net.asked ++ [txnId])[request]? = some id := by
      rw [List.getElem?_append_left (List.getElem?_eq_some_iff.mp asked).1, asked]
    refine ⟨?_, ?_, fun reply member => ?_, kept.copies, ?_, fun _ _ _ _ => kept.told_later (by simp)⟩
    · exact kept.distinct.append (List.nodup_singleton txnId) (List.disjoint_singleton.mpr fresh)
    · intro request waits
      rw [List.length_append, List.length_singleton]
      rcases List.mem_append.mp waits with earlier | now
      · exact Nat.lt_succ_of_lt (kept.waiting request earlier)
      · rw [List.mem_singleton.mp now]
        exact Nat.lt_succ_self _
    · exact (kept.replies reply member).imp before (List.mem_append_left _)
    · intro bytes member request waits id asked
      rcases List.mem_append.mp waits with earlier | now
      · rw [List.getElem?_append_left (kept.waiting request earlier)] at asked
        exact kept.strays bytes member request earlier id asked
      · rw [List.mem_singleton.mp now, List.getElem?_concat_length] at asked
        cases asked
        exact unknown _ member
  | refuse =>
    exact ⟨kept.distinct, kept.waiting, fun reply member => (kept.replies reply member).imp_right
      (List.mem_append_left _), kept.copies, kept.strays, fun _ _ _ _ => kept.told_later (by simp)⟩
  | @serve request txnId response mine named =>
    have same : txnId = response.txnId := (buildBindingRequest_names txnId).eq named
    refine ⟨kept.distinct, kept.waiting, ?_, fun reply member => List.mem_append_left _ (kept.copies reply member),
      kept.strays, fun _ _ _ _ => kept.told_later (by simp)⟩
    intro reply member
    rcases List.mem_append.mp member with earlier | now
    · exact (kept.replies reply earlier).imp_right (List.mem_append_left _)
    · rw [List.mem_singleton.mp now]
      exact ⟨same ▸ mine, List.mem_append_right _ List.mem_cons_self⟩
  | @deliver reply known =>
    refine ⟨kept.distinct, kept.waiting, fun reply member => (kept.replies reply member).imp_right
      (List.mem_append_left _), ?_, ?_, fun _ _ _ _ => kept.told_later (by simp)⟩
    · intro other member
      rcases List.mem_append.mp member with earlier | now
      · exact kept.copies other earlier
      · cases List.mem_singleton.mp now
        exact known
    · intro bytes member
      rcases List.mem_append.mp member with earlier | now
      · exact kept.strays bytes earlier
      · cases List.mem_singleton.mp now
  | @intrude bytes secret =>
    refine ⟨kept.distinct, kept.waiting, fun reply member => (kept.replies reply member).imp_right
      (List.mem_append_left _), ?_, ?_, fun _ _ _ _ => kept.told_later (by simp)⟩
    · intro reply member
      rcases List.mem_append.mp member with earlier | now
      · exact kept.copies reply earlier
      · cases List.mem_singleton.mp now
    · intro other member
      rcases List.mem_append.mp member with earlier | now
      · exact kept.strays other earlier
      · cases List.mem_singleton.mp now
        exact secret
  | @take request txnId datagram rest wait waits mine first =>
    refine kept.ends (fun other inside => first ▸ List.mem_cons_of_mem _ inside) ?_ (kept.told_take waits mine first)
    intro reply copied
    cases copied
    exact kept.copies reply (first ▸ List.mem_cons_self)
  | @giveUp request txnId wait failure waits mine =>
    refine kept.ends (fun _ inside => inside) ?_ (told_giveUp request txnId wait failure)
    intro reply copied
    cases failure <;> cases copied

end StunKept

theorem StunStep.unsent_told {net next : StunNet} {wait : Duration} {refused : IoError}
    {result : Option (Except DiscoverError SocketAddr)} (stepped : StunStep net (.unsent wait refused result) next) :
    result = some (.error (.io refused)) := by
  cases stepped
  rfl

/-- However often requests and responses are lost, repeated and overtaken, and
whatever others send, a discovery returns what it should for what it took, and
an address only if the server got its request from there; one whose request the
socket refused returns that refusal. -/
theorem run_discovers {events : List StunEvent} {net : StunNet} (reach : Reach StunStep .new events net) :
    (∀ request wait took result, .ended request wait took result ∈ events →
      Told request wait took result ∧ ∀ address, result = some (.ok address) →
        ∃ ip port, address = .new ip port ∧ .served request ip port ∈ events) ∧
    ∀ wait refused result, .unsent wait refused result ∈ events → result = some (.error (.io refused)) := by
  constructor
  · intro request wait took result ended
    have kept : StunKept events net := by
      clear ended
      induction reach with
      | start => exact .start
      | next _ stepped ih => exact ih.step stepped
    obtain ⟨told, served⟩ := kept.told request wait took result ended
    refine ⟨told, ?_⟩
    rintro address rfl
    obtain ⟨reply, rfl, rfl, rfl⟩ := told.of_address
    exact ⟨_, _, rfl, served reply rfl⟩
  · intro wait refused result unsent
    obtain ⟨before, after, rfl⟩ := List.append_of_mem unsent
    obtain ⟨_, _, _, stepped, _⟩ := reach.step_at
    exact stepped.unsent_told

def mappedResponse : BindingResponse where
  txnId := .replicate 12 0x11
  others := []
  reserved := 0
  ip := .v4 0xCB00712D
  port := 51820
  rest := []
  trailing := []
  apart _ member := absurd member List.not_mem_nil
  fits := by decide

def unreachable : IoError :=
  .other "Network is unreachable (os error 101)"

/-- A request that the socket refuses, and one that is answered. -/
theorem run_discovers_mapped : ∃ events net, Reach StunStep .new events net ∧
    .unsent 1 unreachable (some (.error (.io unreachable))) ∈ events ∧
    .ended 0 1 (some (.ok (.copy ⟨0, mappedResponse⟩))) (some (.ok (.v4 0xCB00712D 51820))) ∈ events ∧
    ∃ ip port, SocketAddr.v4 0xCB00712D 51820 = .new ip port ∧ .served 0 ip port ∈ events := by
  have refused : Reach StunStep .new [.unsent 1 unreachable _] _ :=
    Reach.single (@StunStep.refuse _ mappedResponse.txnId _ _ none)
  have asked : Reach StunStep .new [.unsent 1 unreachable _, .asked mappedResponse.txnId] _ :=
    refused.next (.ask List.not_mem_nil fun _ member => absurd member List.not_mem_nil)
  have served := asked.next (@StunStep.serve _ 0 _ mappedResponse rfl
    (buildBindingRequest_names mappedResponse.txnId))
  have arrived := served.next (.deliver List.mem_cons_self)
  have result : discoverPublicAddress mappedResponse.txnId 1 none (some (.ok mappedResponse.bytes)) =
      some (.ok (.v4 0xCB00712D 51820)) :=
    @discover_copy mappedResponse.txnId 0 ⟨0, mappedResponse⟩ 1 _ (List.nodup_singleton _) rfl rfl
  have ended := arrived.next (@StunStep.take _ 0 mappedResponse.txnId _ _ 1 List.mem_cons_self rfl rfl)
  rw [StunDatagram.bytes, result] at ended
  refine ⟨_, _, ended, List.mem_cons_self, List.mem_append_right _ List.mem_cons_self, ?_⟩
  exact ((run_discovers ended).1 _ _ _ _ (List.mem_append_right _ List.mem_cons_self)).2 _ rfl

end Stun

end BiBeam
