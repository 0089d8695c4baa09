import BiBeam.Discovery.Failover
import BiBeam.Discovery.Records

namespace BiBeam

/-- The data of a resource record: the character strings of a TXT record, or
another kind of record. -/
inductive RData
  | txt (strings : List (List UInt8))
  | other
deriving DecidableEq

/-- What the resolver uses of other libraries: text forms, base64, the key and
value that a character string is split into, and the text of a codec error. -/
structure PkarrLibraries where
  texts : WireTexts
  base64 : Base64
  splitRaw : List UInt8 → List UInt8 × Option (List UInt8)
  errorText : PostcardError → String

def equalsSign : UInt8 := 61

/-- A character string is split at its first `=`, if it has one. -/
structure SplitsAtFirst (splitRaw : List UInt8 → List UInt8 × Option (List UInt8)) : Prop where
  without : ∀ string, equalsSign ∉ string → splitRaw string = (string, none)
  first : ∀ key value, equalsSign ∉ key → splitRaw (key ++ equalsSign :: value) = (key, some value)

namespace PkarrLibraries

variable (libs : PkarrLibraries)

def iterRaw (txt : List (List UInt8)) : List (List UInt8 × Option (List UInt8)) :=
  txt.map libs.splitRaw

/-- The halves of a character string joined again, behind what came before. -/
def rejoin (joined : List UInt8) : List UInt8 × Option (List UInt8) → List UInt8
  | (key, none) => joined ++ key
  | (key, some valueBytes) => (joined ++ key) ++ [equalsSign] ++ valueBytes

def reassembleTxtBytes (txt : List (List UInt8)) : List UInt8 :=
  (libs.iterRaw txt).foldl rejoin []

def tryDecodeTxt (txt : List (List UInt8)) : Except DiscoveryError (Option PeerRecord) :=
  let joined := libs.reassembleTxtBytes txt
  if joined = [] then
    .ok none
  else
    match libs.base64.decode joined with
    | .error err => .error (.url ("pkarr TXT base64: " ++ err))
    | .ok decoded =>
      match (libs.texts.peerRecord libs.base64).read decoded with
      | .error err => .error (.url ("pkarr TXT postcard: " ++ libs.errorText err))
      | .ok (record, _) => .ok (some record)

/-- The scan of the resource records, with the last failure so far. -/
def extractFrom : List RData → Option DiscoveryError → Except DiscoveryError PeerRecord
  | [], lastError => .error (lastError.getD (.url "pkarr resolve: no usable TXT record"))
  | .txt txt :: rest, lastError =>
    match libs.tryDecodeTxt txt with
    | .ok (some record) => .ok record
    | .ok none => extractFrom rest lastError
    | .error err => extractFrom rest (some err)
  | .other :: rest, lastError => extractFrom rest lastError

def extractPeerRecord (packet : List RData) : Except DiscoveryError PeerRecord :=
  libs.extractFrom packet none

/-- The record that a resource record decodes to, if it does. -/
def decoded : RData → Option PeerRecord
  | .txt txt => (libs.tryDecodeTxt txt).toOption.join
  | .other => none

variable {libs}

/-- Splitting a character string and joining the halves gives it back. -/
theorem rejoin_splitRaw (splits : SplitsAtFirst libs.splitRaw) (joined string : List UInt8) :
    rejoin joined (libs.splitRaw string) = joined ++ string := by
  by_cases present : equalsSign ∈ string
  · obtain ⟨key, value, rfl, before⟩ := List.eq_append_cons_of_mem present
    rw [splits.first key value before, rejoin]
    simp only [List.append_assoc, List.singleton_append]
  · rw [splits.without string present, rejoin]

theorem reassembleTxtBytes_eq_flatten (splits : SplitsAtFirst libs.splitRaw) (chunks : List (List UInt8)) :
    libs.reassembleTxtBytes chunks = chunks.flatten := by
  have behind (joined : List UInt8) : (libs.iterRaw chunks).foldl rejoin joined = joined ++ chunks.flatten := by
    induction chunks generalizing joined with
    | nil => simp [iterRaw]
    | cons chunk rest ih =>
      rw [iterRaw, List.map_cons, List.foldl_cons, rejoin_splitRaw splits]
      rw [← iterRaw, ih, List.flatten_cons, List.append_assoc]
  exact (behind []).trans (List.nil_append _)

/-- A published record is decoded from any cut of its text, without the scope
of its address hint. -/
theorem tryDecodeTxt_published (splits : SplitsAtFirst libs.splitRaw) {record : PeerRecord} {bytes : List UInt8}
    {chunks : List (List UInt8)} (written : (libs.texts.peerRecord libs.base64).write record = .ok bytes)
    (cut : chunks.flatten = libs.base64.encode bytes) :
    libs.tryDecodeTxt chunks = .ok (some { record with addrHint := record.addrHint.unscoped }) := by
  have some : libs.base64.encode bytes ≠ [] :=
    libs.base64.encode_ne_nil (libs.texts.peerRecord_ne_nil libs.base64 written)
  have back := (libs.texts.peerRecord libs.base64).returns written []
  rw [List.append_nil, WireTexts.peerRecord_back] at back
  rw [tryDecodeTxt, reassembleTxtBytes_eq_flatten splits, cut, if_neg some, libs.base64.decode_encode]
  dsimp only
  rw [back]
  rfl

theorem extractFrom_eq_ok_iff {packet : List RData} {lastError : Option DiscoveryError} {record : PeerRecord} :
    libs.extractFrom packet lastError = .ok record ↔ packet.findSome? libs.decoded = some record := by
  induction packet generalizing lastError with
  | nil => exact ⟨nofun, nofun⟩
  | cons data rest ih =>
    cases data with
    | other =>
      rw [extractFrom, ih, List.findSome?_cons]
      rfl
    | txt txt =>
      rw [extractFrom, List.findSome?_cons, decoded]
      cases libs.tryDecodeTxt txt with
      | error err => exact ih
      | ok found =>
        cases found with
        | none => exact ih
        | some found => simp [Except.toOption]

/-- Reassembly undoes every cut, so a published record is decoded as its wire
form holds it; the scan returns the first record that any TXT decodes to. -/
theorem extractPeerRecord_published (splits : SplitsAtFirst libs.splitRaw) :
    (∀ chunks, libs.reassembleTxtBytes chunks = chunks.flatten) ∧
    (∀ record bytes chunks, (libs.texts.peerRecord libs.base64).write record = .ok bytes →
      chunks.flatten = libs.base64.encode bytes →
        libs.tryDecodeTxt chunks = .ok (some { record with addrHint := record.addrHint.unscoped }) ∧
        (libs.tryDecodeTxt chunks = .ok (some record) ↔ record.addrHint.Plain)) ∧
    ∀ packet record, libs.extractPeerRecord packet = .ok record ↔
      ∃ before data after, packet = before ++ data :: after ∧ libs.decoded data = some record ∧
        ∀ earlier ∈ before, libs.decoded earlier = none := by
  refine ⟨reassembleTxtBytes_eq_flatten splits, fun record bytes chunks written cut => ?_, fun packet record => ?_⟩
  · have run := tryDecodeTxt_published splits written cut
    refine ⟨run, ?_⟩
    rw [run, ← record.addrHint.unscoped_eq_iff, Except.ok.injEq, Option.some.injEq]
    constructor
    · exact fun same => congrArg PeerRecord.addrHint same
    · exact fun same => by rw [same]
  · rw [extractPeerRecord, extractFrom_eq_ok_iff, List.findSome?_eq_some_iff]

/-- The halves of a character string around its first `=`. -/
def splitFirst (string : List UInt8) : List UInt8 × Option (List UInt8) :=
  match string.dropWhile (· ≠ equalsSign) with
  | [] => (string, none)
  | _ :: value => (string.takeWhile (· ≠ equalsSign), some value)

theorem splitFirst_splits : SplitsAtFirst splitFirst where
  without string absent := by
    have none : string.dropWhile (· ≠ equalsSign) = [] := by
      rw [List.dropWhile_eq_nil_iff]
      exact fun byte member => decide_eq_true (ne_of_mem_of_not_mem member absent)
    rw [splitFirst, none]
  first key value absent := by
    have before : ∀ byte ∈ key, decide (byte ≠ equalsSign) = true := fun byte member =>
      decide_eq_true (ne_of_mem_of_not_mem member absent)
    have split : (key ++ equalsSign :: value).dropWhile (· ≠ equalsSign) = equalsSign :: value := by
      rw [List.dropWhile_append_of_pos before]
      simp
    have front : (key ++ equalsSign :: value).takeWhile (· ≠ equalsSign) = key := by
      rw [List.takeWhile_append_of_pos before]
      simp
    rw [splitFirst, split, front]

def epochLibraries : PkarrLibraries :=
  ⟨zeroTexts, .standard, splitFirst, fun _ => "postcard"⟩

def epochRecord (addrHint : SocketAddr) : PeerRecord :=
  ⟨⟨0⟩, addrHint, false, 0, 0, "", 0, none⟩

/-- A record cut between any two bytes, between other resource records. -/
theorem extractPeerRecord_published_bytewise :
    ∃ bytes, (zeroTexts.peerRecord .standard).write (epochRecord (.v4 0 0)) = .ok bytes ∧
      epochLibraries.extractPeerRecord [.other, .txt [],
        .txt ((Base64.standard.encode bytes).map fun symbol => [symbol]), .other] = .ok (epochRecord (.v4 0 0)) := by
  have written : (zeroTexts.peerRecord .standard).write (epochRecord (.v4 0 0)) = .ok _ := rfl
  obtain ⟨_, decodes, scans⟩ := @extractPeerRecord_published epochLibraries splitFirst_splits
  refine ⟨_, written, (scans _ _).mpr ⟨[.other, .txt []], _, [.other], rfl, ?_, ?_⟩⟩
  · have run := (decodes _ _ ((Base64.standard.encode _).map fun symbol => [symbol]) written
      (List.flatMap_singleton' _)).1
    rw [decoded, run]
    rfl
  · simp only [List.forall_mem_cons]
    exact ⟨rfl, rfl, List.forall_mem_nil _⟩

/-- The scope of a published address hint is lost. -/
theorem scoped_not_published :
    ∃ bytes, (zeroTexts.peerRecord .standard).write (epochRecord (.v6 1 51820 0 1)) = .ok bytes ∧
      epochLibraries.tryDecodeTxt [Base64.standard.encode bytes] ≠ .ok (some (epochRecord (.v6 1 51820 0 1))) := by
  have written : (zeroTexts.peerRecord .standard).write (epochRecord (.v6 1 51820 0 1)) = .ok _ := rfl
  refine ⟨_, written, fun same => ?_⟩
  rw [@tryDecodeTxt_published epochLibraries splitFirst_splits _ _ _ written (by simp; rfl)] at same
  have hint := congrArg PeerRecord.addrHint (Option.some.inj (Except.ok.inj same))
  cases hint

end PkarrLibraries

end BiBeam
