import BiBeam.Crypto.WgKeys
import BiBeam.Lib.AddressText

namespace BiBeam

open AddressText

/-- A pre-shared key of one session. -/
structure WgPsk where
  bytes : Vector UInt8 32
deriving DecidableEq

/-- The socket address as it is printed: the flow information is left out, the scope where it is zero. -/
def SocketAddr.text : SocketAddr → List Char
  | .v4 ip port => ipv4Text ip ++ ':' :: decimal port.toNat
  | .v6 ip port _ scopeId =>
    let scope := if scopeId = 0 then [] else '%' :: decimal scopeId.toNat
    '[' :: (ipv6Text ip ++ scope ++ ']' :: ':' :: decimal port.toNat)

def IpNet.text : IpNet → List Char
  | .v4 addr prefixLen => ipv4Text addr ++ '/' :: decimal prefixLen
  | .v6 addr prefixLen => ipv6Text addr ++ '/' :: decimal prefixLen

/-- The address as far as its text tells it. -/
def SocketAddr.printed : SocketAddr → SocketAddr
  | .v4 ip port => .v4 ip port
  | .v6 ip port _ scopeId => .v6 ip port 0 scopeId

theorem digit_free {mark : Char} (apart : mark ∉ Nat.digitLetters) (n : Nat) : mark ∉ decimal n :=
  fun member => apart (decimal_letter member)

theorem ipv4_free {mark : Char} (apart : mark ∉ '.' :: Nat.digitLetters) (ip : BitVec 32) : mark ∉ ipv4Text ip :=
  fun member => apart (letter_of_mem_ipv4Text mark member)

theorem ipv6_free {mark : Char} (apart : mark ∉ '.' :: ':' :: Nat.digitLetters) (ip : BitVec 128) :
    mark ∉ ipv6Text ip :=
  fun member => apart (letter_of_mem_ipv6Text mark member)

theorem word_inj {width : Nat} {left right : BitVec width} (same : decimal left.toNat = decimal right.toNat) :
    left = right :=
  BitVec.eq_of_toNat_eq (decimal_inj same)

theorem ipv4_ne_ipv6 (ip : BitVec 32) (other : BitVec 128) : ipv4Text ip ≠ ipv6Text other := by
  intro same
  have colon : ':' ∈ ipv4Text ip := same ▸ colon_mem_ipv6Text other
  exact ipv4_free (by decide) ip colon

/-- The scope of a V6 socket address in its text. -/
theorem scope_inj {left right : BitVec 128} {scope scope' : BitVec 32}
    (same : ipv6Text left ++ (if scope = 0 then [] else '%' :: decimal scope.toNat) =
      ipv6Text right ++ (if scope' = 0 then [] else '%' :: decimal scope'.toNat)) : left = right ∧ scope = scope' := by
  split at same <;> rename_i zero <;> split at same <;> rename_i zero'
  · rw [List.append_nil, List.append_nil] at same
    exact ⟨ipv6Text_inj same, zero.trans zero'.symm⟩
  · have percent : '%' ∈ ipv6Text left := by
      rw [List.append_nil] at same
      rw [same]
      exact List.mem_append_right _ List.mem_cons_self
    exact absurd percent (ipv6_free (by decide) left)
  · have percent : '%' ∈ ipv6Text right := by
      rw [List.append_nil] at same
      rw [← same]
      exact List.mem_append_right _ List.mem_cons_self
    exact absurd percent (ipv6_free (by decide) right)
  · obtain ⟨address, digits⟩ := List.append_mark_inj (ipv6_free (by decide) left) (ipv6_free (by decide) right) same
    exact ⟨ipv6Text_inj address, word_inj digits⟩

theorem SocketAddr.text_printed (addr : SocketAddr) : addr.printed.text = addr.text := by
  cases addr <;> rfl

theorem v4_free {mark : Char} (apart : mark ∉ ':' :: '.' :: Nat.digitLetters) (ip : BitVec 32) (port : BitVec 16) :
    mark ∉ SocketAddr.text (.v4 ip port) := by
  simp only [List.mem_cons, not_or] at apart
  obtain ⟨colon, point, digits⟩ := apart
  have octets : mark ∉ '.' :: Nat.digitLetters := by simp [point, digits]
  simp [SocketAddr.text, ipv4_free octets, digit_free digits, colon]

theorem scoped_free {mark : Char} (apart : mark ∉ '%' :: '.' :: ':' :: Nat.digitLetters) (ip : BitVec 128)
    (scope : BitVec 32) : mark ∉ ipv6Text ip ++ (if scope = 0 then [] else '%' :: decimal scope.toNat) := by
  simp only [List.mem_cons, not_or] at apart
  obtain ⟨percent, point, colon, digits⟩ := apart
  have address : mark ∉ '.' :: ':' :: Nat.digitLetters := by simp [point, colon, digits]
  simp [ipv6_free address, digit_free digits, percent]

theorem v4_text_ne_v6 (ip : BitVec 32) (port port' : BitVec 16) (ip' : BitVec 128) (flowinfo scopeId : BitVec 32) :
    SocketAddr.text (.v4 ip port) ≠ SocketAddr.text (.v6 ip' port' flowinfo scopeId) := by
  intro same
  have opening : '[' ∈ SocketAddr.text (.v4 ip port) := same ▸ List.mem_cons_self
  exact v4_free (by decide) ip port opening

theorem SocketAddr.text_eq_iff {left right : SocketAddr} : left.text = right.text ↔ left.printed = right.printed := by
  refine ⟨fun same => ?_, fun same => by rw [← left.text_printed, same, right.text_printed]⟩
  cases left with
  | v4 ip port =>
    cases right with
    | v4 ip' port' =>
      obtain ⟨address, digits⟩ := List.append_mark_inj (ipv4_free (by decide) ip) (ipv4_free (by decide) ip') same
      rw [ipv4Text_inj address, word_inj digits]
    | v6 ip' port' flowinfo scopeId => exact absurd same (v4_text_ne_v6 ip port port' ip' flowinfo scopeId)
  | v6 ip port flowinfo scopeId =>
    cases right with
    | v4 ip' port' => exact absurd same.symm (v4_text_ne_v6 ip' port' port ip flowinfo scopeId)
    | v6 ip' port' flowinfo' scopeId' =>
      obtain ⟨inside, outside⟩ := List.append_mark_inj (scoped_free (by decide) ip scopeId)
        (scoped_free (by decide) ip' scopeId') (List.cons.inj same).2
      obtain ⟨address, scopes⟩ := scope_inj inside
      rw [address, scopes, word_inj (List.cons.inj outside).2]
      rfl

theorem IpNet.text_inj {left right : IpNet} (same : left.text = right.text) : left = right := by
  cases left with
  | v4 addr prefixLen =>
    cases right with
    | v4 addr' prefixLen' =>
      obtain ⟨address, digits⟩ := List.append_mark_inj (ipv4_free (by decide) addr) (ipv4_free (by decide) addr') same
      rw [ipv4Text_inj address, Fin.ext (decimal_inj digits)]
    | v6 addr' prefixLen' =>
      have front := List.append_mark_inj (ipv4_free (by decide) addr) (ipv6_free (by decide) addr') same
      exact absurd front.1 (ipv4_ne_ipv6 addr addr')
  | v6 addr prefixLen =>
    cases right with
    | v4 addr' prefixLen' =>
      have front := List.append_mark_inj (ipv6_free (by decide) addr) (ipv4_free (by decide) addr') same
      exact absurd front.1.symm (ipv4_ne_ipv6 addr' addr)
    | v6 addr' prefixLen' =>
      obtain ⟨address, digits⟩ := List.append_mark_inj (ipv6_free (by decide) addr) (ipv6_free (by decide) addr') same
      rw [ipv6Text_inj address, Fin.ext (decimal_inj digits)]

theorem SocketAddr.text_free {mark : Char} (apart : mark ∉ '[' :: ']' :: '%' :: '.' :: ':' :: Nat.digitLetters)
    (addr : SocketAddr) : mark ∉ addr.text := by
  simp only [List.mem_cons, not_or] at apart
  obtain ⟨opening, closing, percent, point, colon, digits⟩ := apart
  cases addr with
  | v4 ip port => exact v4_free (by simp [point, colon, digits]) ip port
  | v6 ip port flowinfo scopeId =>
    have zoned : mark ∉ '%' :: '.' :: ':' :: Nat.digitLetters := by simp [percent, point, colon, digits]
    have inside := scoped_free zoned ip scopeId
    simp only [SocketAddr.text, List.mem_cons, List.mem_append, not_or] at inside ⊢
    exact ⟨opening, inside, closing, colon, digit_free digits _⟩

theorem IpNet.text_free {mark : Char} (apart : mark ∉ '/' :: '.' :: ':' :: Nat.digitLetters) (block : IpNet) :
    mark ∉ block.text := by
  simp only [List.mem_cons, not_or] at apart
  obtain ⟨slash, point, colon, digits⟩ := apart
  cases block with
  | v4 addr prefixLen =>
    have octets : mark ∉ '.' :: Nat.digitLetters := by simp [point, digits]
    simp [IpNet.text, ipv4_free octets, digit_free digits, slash]
  | v6 addr prefixLen =>
    have address : mark ∉ '.' :: ':' :: Nat.digitLetters := by simp [point, colon, digits]
    simp [IpNet.text, ipv6_free address, digit_free digits, slash]

namespace Transport

/-- A `[Peer]` section of a `wg-quick` file. -/
structure WgPeerConfig where
  publicKey : WgPublicKey
  presharedKey : Option WgPsk
  endpoint : Option SocketAddr
  allowedIps : List IpNet
  persistentKeepalive : Option (BitVec 16)
deriving DecidableEq

def appendAllowedIps (output : String) : List IpNet → String
  | [] => output
  | head :: entries =>
    entries.foldl (fun output entry => output ++ ", " ++ String.ofList entry.text) (output ++ String.ofList head.text)

def formatEndpoint (endpoint : SocketAddr) : String :=
  String.ofList endpoint.text

variable (base64 : Base64)

def encodePskBase64 (psk : WgPsk) : String :=
  base64.text psk.bytes.toList

/-- The section, with a line for each field that is there. -/
def WgPeerConfig.toWgQuick (peer : WgPeerConfig) : String :=
  let output := "[Peer]\n" ++ "PublicKey = " ++ peer.publicKey.toWgBase64 base64 ++ "\n"
  let output := match peer.presharedKey with
    | some psk => output ++ "PresharedKey = " ++ encodePskBase64 base64 psk ++ "\n"
    | none => output
  let output := if peer.allowedIps.isEmpty then output
    else appendAllowedIps (output ++ "AllowedIPs = ") peer.allowedIps ++ "\n"
  let output := match peer.endpoint with
    | some endpoint => output ++ "Endpoint = " ++ formatEndpoint endpoint ++ "\n"
    | none => output
  match peer.persistentKeepalive with
  | some keepalive => output ++ "PersistentKeepalive = " ++ toString keepalive.toNat ++ "\n"
  | none => output

/-- The fields that a section may have a line for. -/
inductive WgField
  | publicKey
  | presharedKey
  | allowedIps
  | endpoint
  | persistentKeepalive
deriving DecidableEq

/-- What the line of a field begins with. -/
def WgField.label : WgField → String
  | .publicKey => "PublicKey = "
  | .presharedKey => "PresharedKey = "
  | .allowedIps => "AllowedIPs = "
  | .endpoint => "Endpoint = "
  | .persistentKeepalive => "PersistentKeepalive = "

/-- The order in which the fields are written. -/
def WgField.order : List WgField :=
  [.publicKey, .presharedKey, .allowedIps, .endpoint, .persistentKeepalive]

/-- A field with the text of its value. -/
abbrev WgEntry := WgField × List Char

def WgEntry.line (entry : WgEntry) : List Char :=
  entry.1.label.toList ++ entry.2

def optional (field : WgField) (value : Option (List Char)) : List WgEntry :=
  (value.map fun text => (field, text)).toList

/-- The blocks with a comma and a blank between them. -/
def allowedText (allowedIps : List IpNet) : Option (List Char) :=
  match allowedIps with
  | [] => none
  | head :: entries => some ([','].intercalate (head.text :: entries.map fun entry => ' ' :: entry.text))

namespace WgPeerConfig

/-- The text of the value that a field has. -/
def textOf (peer : WgPeerConfig) : WgField → Option (List Char)
  | .publicKey => some (peer.publicKey.toWgBase64 base64).toList
  | .presharedKey => peer.presharedKey.map fun psk => (encodePskBase64 base64 psk).toList
  | .allowedIps => allowedText peer.allowedIps
  | .endpoint => peer.endpoint.map SocketAddr.text
  | .persistentKeepalive => peer.persistentKeepalive.map fun keepalive => decimal keepalive.toNat

def entries (peer : WgPeerConfig) : List WgEntry :=
  WgField.order.flatMap fun field => optional field (peer.textOf base64 field)

def header : List Char := "[Peer]".toList

def lines (peer : WgPeerConfig) : List (List Char) :=
  header :: (peer.entries base64).map WgEntry.line

end WgPeerConfig

/-- The lines of the entries, as they stand in the text. -/
def written (entries : List WgEntry) : List Char :=
  (entries.map WgEntry.line).flatMap (· ++ ['\n'])

theorem written_append (front behind : List WgEntry) : written (front ++ behind) = written front ++ written behind := by
  rw [written, List.map_append, List.flatMap_append]
  rfl

/-- A line that is put behind the text. -/
theorem pushed (output : String) (field : WgField) {front : String} {value : List Char}
    (line : front.toList = output.toList ++ field.label.toList ++ value) :
    (front ++ "\n").toList = output.toList ++ written [(field, value)] := by
  have feed : "\n".toList = ['\n'] := rfl
  rw [String.toList_append, line, feed]
  simp only [written, WgEntry.line, List.map_cons, List.map_nil, List.flatMap_cons, List.flatMap_nil, List.append_assoc,
    List.append_nil]

theorem appendAllowedIps_entries (output : String) (head : IpNet) (entries : List IpNet) :
    (appendAllowedIps output (head :: entries)).toList =
      output.toList ++ [','].intercalate (head.text :: entries.map fun entry => ' ' :: entry.text) := by
  have appended (output : String) :
      (entries.foldl (fun output entry => output ++ ", " ++ String.ofList entry.text) output).toList =
        output.toList ++ entries.flatMap fun entry => ',' :: ' ' :: entry.text := by
    induction entries generalizing output with
    | nil => simp
    | cons entry entries ih =>
      rw [List.foldl_cons, ih]
      simp
  rw [appendAllowedIps, appended, List.intercalate_eq_flatMap, List.flatMap_map]
  simp

/-- The text of a section is its lines, each with a line feed behind it. -/
theorem toWgQuick_lines (peer : WgPeerConfig) :
    (peer.toWgQuick base64).toList = (peer.lines base64).flatMap (· ++ ['\n']) := by
  obtain ⟨publicKey, presharedKey, endpoint, allowedIps, persistentKeepalive⟩ := peer
  have toPsk (output : String) : (match presharedKey with
      | some psk => output ++ "PresharedKey = " ++ encodePskBase64 base64 psk ++ "\n"
      | none => output).toList = output.toList ++ written (optional .presharedKey (presharedKey.map
        fun psk => (encodePskBase64 base64 psk).toList)) := by
    cases presharedKey with
    | none => exact (List.append_nil _).symm
    | some psk =>
      refine pushed output .presharedKey ?_
      rw [String.toList_append, String.toList_append]
      rfl
  have toAllowed (output : String) : (if allowedIps.isEmpty then output
      else appendAllowedIps (output ++ "AllowedIPs = ") allowedIps ++ "\n").toList =
        output.toList ++ written (optional .allowedIps (allowedText allowedIps)) := by
    cases allowedIps with
    | nil => exact (List.append_nil _).symm
    | cons head entries =>
      refine pushed output .allowedIps ?_
      rw [appendAllowedIps_entries, String.toList_append]
      rfl
  have toEndpoint (output : String) : (match endpoint with
      | some endpoint => output ++ "Endpoint = " ++ formatEndpoint endpoint ++ "\n"
      | none => output).toList = output.toList ++ written (optional .endpoint (endpoint.map SocketAddr.text)) := by
    cases endpoint with
    | none => exact (List.append_nil _).symm
    | some endpoint =>
      have printed : (formatEndpoint endpoint).toList = endpoint.text := String.toList_ofList
      refine pushed output .endpoint ?_
      rw [String.toList_append, String.toList_append, printed]
      rfl
  have toKeepalive (output : String) : (match persistentKeepalive with
      | some keepalive => output ++ "PersistentKeepalive = " ++ toString keepalive.toNat ++ "\n"
      | none => output).toList = output.toList ++ written (optional .persistentKeepalive (persistentKeepalive.map
        fun keepalive => decimal keepalive.toNat)) := by
    cases persistentKeepalive with
    | none => exact (List.append_nil _).symm
    | some keepalive =>
      refine pushed output .persistentKeepalive ?_
      rw [String.toList_append, String.toList_append]
      exact congrArg _ Nat.toList_repr
  have toKey : ("[Peer]\n" ++ "PublicKey = " ++ publicKey.toWgBase64 base64 ++ "\n").toList =
      WgPeerConfig.header ++ ['\n'] ++ written (optional .publicKey (some (publicKey.toWgBase64 base64).toList)) := by
    refine pushed "[Peer]\n" .publicKey ?_
    rw [String.toList_append, String.toList_append]
    rfl
  rw [WgPeerConfig.toWgQuick]
  dsimp only
  rw [toKeepalive, toEndpoint, toAllowed, toPsk, toKey]
  change _ = WgPeerConfig.header ++ ['\n'] ++ written (WgPeerConfig.entries base64 _)
  simp only [WgPeerConfig.entries, WgField.order, List.flatMap_cons, List.flatMap_nil, List.append_nil, written_append,
    List.append_assoc, WgPeerConfig.textOf]

/-- The name of a field and the sign behind it. -/
theorem label_split (field : WgField) :
    field.label.toList = field.label.toList.takeWhile (· ≠ '=') ++ '=' :: [' '] := by
  cases field <;> decide

theorem line_inj {left right : WgEntry} (same : left.line = right.line) : left = right := by
  have names : ∀ field other : WgField,
      field.label.toList.takeWhile (· ≠ '=') = other.label.toList.takeWhile (· ≠ '=') → field = other := by
    intro field other
    cases field <;> cases other <;> decide
  have unsigned (field : WgField) : '=' ∉ field.label.toList.takeWhile (· ≠ '=') := by
    cases field <;> decide
  rw [WgEntry.line, WgEntry.line, label_split, label_split right.1, List.append_assoc, List.append_assoc] at same
  obtain ⟨front, behind⟩ := List.append_mark_inj (unsigned left.1) (unsigned right.1) same
  exact Prod.ext (names _ _ front) (List.cons.inj behind).2

theorem line_ne_header (entry : WgEntry) : entry.line ≠ WgPeerConfig.header := by
  have first : ∀ field : WgField, ∀ value, (field.label.toList ++ value).head? ≠ some '[' := by
    intro field value
    cases field <;> simp [WgField.label]
  intro same
  exact first entry.1 entry.2 (congrArg List.head? same)

theorem base64_free (bytes : List UInt8) : '\n' ∉ (base64.text bytes).toList := by
  have visible : ∀ n < 127, 32 < n → Char.ofNat n ≠ '\n' := by decide
  intro member
  rw [Base64.text, String.toList_ofList] at member
  obtain ⟨symbol, inside, same⟩ := List.mem_map.mp member
  have printable := base64.printable inside
  exact visible symbol.toNat printable.2 printable.1 same

theorem eq_of_mem_optional {field : WgField} {value : Option (List Char)} {entry : WgEntry}
    (member : entry ∈ optional field value) : value = some entry.2 := by
  cases value with
  | none => exact absurd member List.not_mem_nil
  | some text => rw [List.mem_singleton.mp member]

theorem allowedText_free {allowedIps : List IpNet} {text : List Char} (there : allowedText allowedIps = some text) :
    '\n' ∉ text := by
  cases allowedIps with
  | nil => cases there
  | cons head entries =>
    rw [← Option.some.inj there]
    have letters : ∀ c ∈ [','].intercalate (head.text :: entries.map fun entry => ' ' :: entry.text), c ≠ '\n' := by
      have comma : ∀ c ∈ [','], c ≠ '\n' := List.forall_mem_singleton.mpr (by decide)
      refine List.forall_mem_intercalate comma fun piece inside c letter same => ?_
      rw [same] at letter
      rcases List.mem_cons.mp inside with rfl | behind
      · exact head.text_free (by decide) letter
      · obtain ⟨entry, _, rfl⟩ := List.mem_map.mp behind
        rcases List.mem_cons.mp letter with blank | letter
        · exact absurd blank (by decide)
        · exact entry.text_free (by decide) letter
    exact fun member => letters '\n' member rfl

theorem feed_free {peer : WgPeerConfig} {entry : WgEntry} (member : entry ∈ peer.entries base64) : '\n' ∉ entry.2 := by
  obtain ⟨field, _, written⟩ := List.mem_flatMap.mp member
  have value := eq_of_mem_optional written
  cases field with
  | publicKey => exact Option.some.inj value ▸ base64_free base64 _
  | presharedKey =>
    obtain ⟨psk, _, same⟩ := Option.map_eq_some_iff.mp value
    exact same ▸ base64_free base64 _
  | allowedIps => exact allowedText_free value
  | endpoint =>
    obtain ⟨endpoint, _, same⟩ := Option.map_eq_some_iff.mp value
    exact same ▸ endpoint.text_free (by decide)
  | persistentKeepalive =>
    obtain ⟨keepalive, _, same⟩ := Option.map_eq_some_iff.mp value
    exact same ▸ digit_free (by decide) _

/-- The value that a list of entries has for a field. -/
def valueOf (field : WgField) (entries : List WgEntry) : Option (List Char) :=
  (entries.find? (·.1 = field)).map Prod.snd

theorem find_optional (wanted field : WgField) (value : Option (List Char)) :
    (optional field value).find? (·.1 = wanted) = if field = wanted then value.map (field, ·) else none := by
  cases value with
  | none => simp [optional]
  | some text =>
    by_cases same : field = wanted <;> simp [optional, same]

theorem valueOf_entries (peer : WgPeerConfig) (field : WgField) :
    valueOf field (peer.entries base64) = peer.textOf base64 field := by
  rw [valueOf, WgPeerConfig.entries]
  cases field <;> simp [WgField.order, List.find?_append, find_optional, Function.comp_def]

theorem allowedText_inj {left right : List IpNet} (same : allowedText left = allowedText right) : left = right := by
  have free (head : IpNet) (entries : List IpNet) :
      ∀ piece ∈ head.text :: entries.map (fun entry => ' ' :: entry.text), ',' ∉ piece := by
    refine List.forall_mem_cons.mpr ⟨head.text_free (by decide), ?_⟩
    intro piece inside
    obtain ⟨entry, _, rfl⟩ := List.mem_map.mp inside
    exact fun member => entry.text_free (by decide) ((List.mem_cons.mp member).resolve_left (by decide))
  cases left with
  | nil =>
    cases right with
    | nil => rfl
    | cons head entries => cases same
  | cons head entries =>
    cases right with
    | nil => cases same
    | cons head' entries' =>
      have texts := List.intercalate_inj (List.cons_ne_nil _ _) (List.cons_ne_nil _ _) (free head entries)
        (free head' entries') (Option.some.inj same)
      obtain ⟨first, rest⟩ := List.cons.inj texts
      have written : Function.Injective fun entry : IpNet => ' ' :: entry.text :=
        fun _ _ same => IpNet.text_inj (List.cons.inj same).2
      rw [IpNet.text_inj first, List.map_injective_iff.mpr written rest]

/-- The section as far as its text tells it. -/
def WgPeerConfig.printed (peer : WgPeerConfig) : WgPeerConfig :=
  { peer with endpoint := peer.endpoint.map SocketAddr.printed }

theorem psk_inj {left right : WgPsk}
    (same : (encodePskBase64 base64 left).toList = (encodePskBase64 base64 right).toList) : left = right := by
  have texts : base64.text left.bytes.toList = base64.text right.bytes.toList := String.toList_injective same
  have bytes := base64.decode_encode left.bytes.toList
  rw [← base64.utf8_text, texts, base64.utf8_text, base64.decode_encode] at bytes
  have same : left.bytes = right.bytes := Vector.toList_inj.mp (Except.ok.inj bytes).symm
  cases left
  cases right
  exact congrArg WgPsk.mk same

theorem publicKey_inj {left right : WgPublicKey}
    (same : (left.toWgBase64 base64).toList = (right.toWgBase64 base64).toList) : left = right := by
  have parsed := congrArg (WgPublicKey.fromWgBase64 base64) (String.toList_injective same)
  rw [WgPublicKey.fromWgBase64_toWgBase64, WgPublicKey.fromWgBase64_toWgBase64] at parsed
  exact Except.ok.inj parsed

theorem entries_tell {left right : WgPeerConfig} (same : left.entries base64 = right.entries base64) :
    left.printed = right.printed := by
  have values (field : WgField) : left.textOf base64 field = right.textOf base64 field := by
    rw [← valueOf_entries, same, valueOf_entries]
  have key := publicKey_inj base64 (Option.some.inj (values .publicKey))
  have psk := Option.map_injective (fun _ _ => psk_inj base64) (values .presharedKey)
  have allowed := allowedText_inj (values .allowedIps)
  have keepalive := Option.map_injective (fun _ _ => word_inj) (values .persistentKeepalive)
  have endpoint : left.endpoint.map SocketAddr.printed = right.endpoint.map SocketAddr.printed := by
    have texts : left.endpoint.map SocketAddr.text = right.endpoint.map SocketAddr.text := values .endpoint
    revert texts
    cases left.endpoint <;> cases right.endpoint <;> simp [SocketAddr.text_eq_iff]
  obtain ⟨publicKey, presharedKey, _, allowedIps, persistentKeepalive⟩ := left
  dsimp only at key psk allowed keepalive
  rw [WgPeerConfig.printed, WgPeerConfig.printed, endpoint, key, psk, allowed, keepalive]

theorem entries_printed (peer : WgPeerConfig) : peer.printed.entries base64 = peer.entries base64 := by
  have same (field : WgField) : peer.printed.textOf base64 field = peer.textOf base64 field := by
    cases field with
    | endpoint =>
      change (peer.endpoint.map SocketAddr.printed).map SocketAddr.text = peer.endpoint.map SocketAddr.text
      cases peer.endpoint with
      | none => rfl
      | some endpoint => exact congrArg some endpoint.text_printed
    | publicKey | presharedKey | allowedIps | persistentKeepalive => rfl
  simp only [WgPeerConfig.entries, same]

/-- A file of sections with as many blank lines between them. -/
def file (gap : Nat) (peers : List WgPeerConfig) : String :=
  (String.ofList (List.replicate gap '\n')).intercalate (peers.map (WgPeerConfig.toWgQuick base64))

/-- The file line by line. -/
theorem file_lines (gap : Nat) (peers : List WgPeerConfig) : (file base64 gap peers).toList =
    ((List.replicate gap []).intercalate (peers.map (WgPeerConfig.lines base64))).flatMap (· ++ ['\n']) := by
  have feeds : (List.replicate gap ([] : List Char)).flatMap (· ++ ['\n']) = List.replicate gap '\n' := by
    rw [List.flatMap_replicate]
    exact List.flatten_replicate_singleton
  have sections : String.toList ∘ WgPeerConfig.toWgQuick base64 =
      List.flatMap (· ++ ['\n']) ∘ WgPeerConfig.lines base64 := funext (toWgQuick_lines base64)
  rw [file, String.toList_intercalate, String.toList_ofList, List.flatMap_intercalate, List.map_map, List.map_map,
    feeds, sections]

theorem line_ne_nil (entry : WgEntry) : entry.line ≠ [] := by
  have label : ∀ field : WgField, field.label.toList ≠ [] := by
    intro field
    cases field <;> decide
  exact List.append_ne_nil_of_left_ne_nil (label entry.1) entry.2

theorem feed_free_line {peer : WgPeerConfig} : ∀ line ∈ peer.lines base64, '\n' ∉ line := by
  have label : ∀ field : WgField, '\n' ∉ field.label.toList := by
    intro field
    cases field <;> decide
  refine List.forall_mem_cons.mpr ⟨by decide, fun line member => ?_⟩
  obtain ⟨entry, inside, rfl⟩ := List.mem_map.mp member
  rw [WgEntry.line, List.mem_append, not_or]
  exact ⟨label entry.1, feed_free base64 inside⟩

/-- The lines of a file that are not blank are those of its sections, one after the other. -/
theorem file_sections {gap other : Nat} {left right : List WgPeerConfig}
    (same : file base64 gap left = file base64 other right) :
    left.flatMap (WgPeerConfig.lines base64) = right.flatMap (WgPeerConfig.lines base64) := by
  have free (gap : Nat) (peers : List WgPeerConfig) :
      ∀ line ∈ (List.replicate gap []).intercalate (peers.map (WgPeerConfig.lines base64)), '\n' ∉ line := by
    refine List.forall_mem_intercalate ?_ ?_
    · intro line blank
      rw [List.eq_of_mem_replicate blank]
      exact List.not_mem_nil
    · intro lines member
      obtain ⟨peer, _, rfl⟩ := List.mem_map.mp member
      exact feed_free_line base64
  have told (gap : Nat) (peers : List WgPeerConfig) :
      ((List.replicate gap []).intercalate (peers.map (WgPeerConfig.lines base64))).filter (· ≠ []) =
        peers.flatMap (WgPeerConfig.lines base64) := by
    have whole (peer : WgPeerConfig) : (peer.lines base64).filter (· ≠ []) = peer.lines base64 := by
      refine List.filter_eq_self.mpr fun line member => decide_eq_true ?_
      rcases List.mem_cons.mp member with rfl | member
      · exact List.cons_ne_nil _ _
      · obtain ⟨entry, _, rfl⟩ := List.mem_map.mp member
        exact line_ne_nil entry
    rw [List.filter_intercalate, List.filter_replicate_of_neg (by simp), List.nil_intercalate, List.map_map,
      ← List.flatMap_def]
    exact List.flatMap_congr fun peer _ => whole peer
  have texts := congrArg String.toList same
  rw [file_lines, file_lines] at texts
  rw [← told gap left, List.terminated_inj (free gap left) (free other right) texts, told other right]

/-- A file tells its sections, whatever the blank lines between them: each of
them but for the flow information of its endpoint, which is not printed. -/
theorem toWgQuick_tells (base64 : Base64) (left right : List WgPeerConfig) :
    (∀ gap other, file base64 gap left = file base64 other right →
      left.map WgPeerConfig.printed = right.map WgPeerConfig.printed) ∧
    (left.map WgPeerConfig.printed = right.map WgPeerConfig.printed →
      ∀ gap, file base64 gap left = file base64 gap right) := by
  constructor
  · intro gap other same
    have apart (peers : List WgPeerConfig) :
        ∀ block ∈ peers.map (fun peer => (peer.entries base64).map WgEntry.line), WgPeerConfig.header ∉ block := by
      intro block member inside
      obtain ⟨peer, _, rfl⟩ := List.mem_map.mp member
      obtain ⟨entry, _, header⟩ := List.mem_map.mp inside
      exact line_ne_header entry header
    have sections := file_sections base64 same
    have blocks := List.headed_inj (apart left) (apart right)
      (by rw [List.flatMap_map, List.flatMap_map]; exact sections)
    refine List.map_eq_of_tells (fun peer peer' same => ?_) blocks
    exact entries_tell base64 (List.map_injective_iff.mpr (fun _ _ => line_inj) same)
  · intro same gap
    have text (peer : WgPeerConfig) : peer.printed.toWgQuick base64 = peer.toWgQuick base64 := by
      apply String.toList_injective
      rw [toWgQuick_lines, toWgQuick_lines, WgPeerConfig.lines, WgPeerConfig.lines, entries_printed]
    have texts (peers : List WgPeerConfig) : peers.map (WgPeerConfig.toWgQuick base64) =
        (peers.map WgPeerConfig.printed).map (WgPeerConfig.toWgQuick base64) := by
      rw [List.map_map]
      exact List.map_congr_left fun peer _ => (text peer).symm
    rw [file, file, texts left, same, ← texts right]

end Transport

end BiBeam
