/-
# MoveWallet.Auth.PublicKey — public keys of either scheme

A key verifies signatures of its own scheme only.  Its native address is a hash of the key itself
for the first scheme, and that of the key's taproot address for the second.
-/
import MoveWallet.Auth.Scheme
import MoveWallet.Bitcoin.Address
import MoveWallet.Curve.Ecdsa
import MoveWallet.Curve.Ed25519

namespace MoveWallet.Auth

set_option autoImplicit false

open MoveWallet.Bytes.Fixed
open MoveWallet.Curve
open MoveWallet.Curve.Secp256k1 (CurveKey)
open MoveWallet.Text

/-- A public key. -/
inductive PublicKey where
  | ed25519 (bytes : FixedBytes 32)
  | secp256k1 (key : CurveKey)
  deriving DecidableEq

namespace PublicKey

/-- The scheme of a key. -/
def scheme : PublicKey → Scheme
  | ed25519 _ => .ed25519
  | secp256k1 _ => .secp256k1

/-- The bytes of a key. -/
def bytes : PublicKey → List UInt8
  | ed25519 bs => bs.toList
  | secp256k1 key => key.compressed.toList

/-- The key with given bytes, which must be a point of the scheme's curve. -/
def ofBytes (scheme : Scheme) (bs : List UInt8) : Except AuthError PublicKey :=
  match scheme with
  | .ed25519 =>
      match FixedBytes.ofList? 32 bs with
      | none => .error (.publicKeyLength scheme scheme.publicKeyLength bs.length)
      | some b =>
          if (Ed25519.Point.decompress? b).isSome then .ok (ed25519 b)
          else .error (.badKey scheme .notAPoint)
  | .secp256k1 =>
      if bs.length ≠ scheme.publicKeyLength then
        .error (.publicKeyLength scheme scheme.publicKeyLength bs.length)
      else
        match CurveKey.ofCompressed? bs with
        | some key => .ok (secp256k1 key)
        | none => .error (.badKey scheme (.curve .malformedPublicKey))

/-- The key after its scheme's flag. -/
def ofFlagged : List UInt8 → Except AuthError PublicKey
  | [] => .error (.payloadLength 0)
  | flag :: bs => do
      let scheme ← Scheme.ofFlag flag
      ofBytes scheme bs

/-- The key's owner signed the message.  The second scheme signs the SHA-256 digest. -/
def verify (key : PublicKey) (message : List UInt8) (signature : Signature) : Bool :=
  signature.scheme == key.scheme &&
    match key with
    | ed25519 bs => Ed25519.verify bs message signature.bytes
    | secp256k1 k =>
        Ecdsa.verify k (Digest.Sha2.sha256 message) (Ecdsa.Signature.ofBytes signature.bytes)

/-- The native address of a key's owner. -/
def account : PublicKey → Account.Address
  | ed25519 bs => Account.Address.ofKeyMaterial Scheme.ed25519.sizeByte bs.toList
  | secp256k1 key => Bitcoin.taprootAccount key.xOnly

/-- The bytes in hex. -/
def toText (key : PublicKey) : String := Hex.encode key.bytes

/-- The form that messages for developers use. -/
def debugText (key : PublicKey) : String :=
  "PublicKey(" ++ key.scheme.name ++ ", " ++ key.toText ++ ")"

end PublicKey

end MoveWallet.Auth
