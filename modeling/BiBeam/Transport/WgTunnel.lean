import BiBeam.Core.Ids

namespace BiBeam

def SocketAddr.ip : SocketAddr → IpAddr
  | .v4 ip _ => .v4 ip
  | .v6 ip _ _ _ => .v6 ip

/-- What the cipher engine asks its caller to do after a step. -/
inductive TunnResult (E : Type)
  | done
  | err (error : E)
  | writeToNetwork (bytes : List UInt8)
  | writeToTunnelV4 (bytes : List UInt8) (addr : BitVec 32)
  | writeToTunnelV6 (bytes : List UInt8) (addr : BitVec 128)

/-- The cipher engine: a state machine over its own session states. -/
structure Tunn (S E : Type) where
  encapsulate : S → List UInt8 → TunnResult E × S
  decapsulate : S → Option IpAddr → List UInt8 → TunnResult E × S

inductive WgTunnelError (E : Type)
  | bufferTooSmall (available need : Nat)
  | wireGuard (error : E)
deriving DecidableEq

structure WgTunnel (S : Type) where
  inner : S
  peerAddr : SocketAddr

namespace WgTunnel

variable {S E : Type}

/-- The bytes written to the caller's buffer of `out` bytes. -/
def encapsulate (engine : Tunn S E) (tunnel : WgTunnel S) (plain : List UInt8) (out : Nat) :
    Except (WgTunnelError E) (List UInt8) × WgTunnel S :=
  let needed := max (plain.length + 32) 148
  if out < needed then
    (.error (.bufferTooSmall out needed), tunnel)
  else
    let (result, inner) := engine.encapsulate tunnel.inner plain
    let written := match result with
      | .writeToNetwork bytes => .ok bytes
      | .done => .ok []
      | .err error => .error (.wireGuard error)
      | .writeToTunnelV4 _ _ => .ok []
      | .writeToTunnelV6 _ _ => .ok []
    (written, { tunnel with inner })

/-- The plaintext written to the caller's buffer of `out` bytes, if any. -/
def decapsulate (engine : Tunn S E) (tunnel : WgTunnel S) (encrypted : List UInt8) (out : Nat) :
    Except (WgTunnelError E) (Option (List UInt8)) × WgTunnel S :=
  if out < encrypted.length then
    (.error (.bufferTooSmall out encrypted.length), tunnel)
  else
    let (result, inner) := engine.decapsulate tunnel.inner (some tunnel.peerAddr.ip) encrypted
    let written := match result with
      | .writeToTunnelV4 bytes _ => .ok (some bytes)
      | .writeToTunnelV6 bytes _ => .ok (some bytes)
      | .done => .ok none
      | .writeToNetwork _ => .ok none
      | .err error => .error (.wireGuard error)
    (written, { tunnel with inner })

end WgTunnel

end BiBeam
