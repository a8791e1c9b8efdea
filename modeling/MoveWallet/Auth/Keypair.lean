/-
# MoveWallet.Auth.Keypair — secret keys, their import and export, and signing

A secret has 32 bytes.  Keys of the first scheme are also accepted in the older form of 64 bytes,
which carries the public key.  Unless the caller asks not to, an imported key has to verify its own
signature.  The export form is bech32 text of the scheme's flag and the secret.
-/
import MoveWallet.Auth.PublicKey
import MoveWallet.Nostr.Address

namespace MoveWallet.Auth

set_option autoImplicit false

open MoveWallet.Bytes.Endian
open MoveWallet.Bytes.Fixed
open MoveWallet.Curve
open MoveWallet.Curve.Secp256k1 (CurveKey)
open MoveWallet.Text

/-! ## Keys -/

/-- A secret number of the second scheme. -/
structure SecretNumber where
  value : Nat
  positive : 0 < value
  below : value < Secp256k1.order
  deriving DecidableEq

namespace SecretNumber

/-- The secret in 32 bytes. -/
def ofBytes? (bs : List UInt8) : Option SecretNumber :=
  let n := ofBigEndian bs
  if h : 0 < n ∧ n < Secp256k1.order then some ⟨n, h.1, h.2⟩ else none

/-- The secret that a random number chooses. -/
def ofEntropy (n : Nat) : SecretNumber where
  value := n % (Secp256k1.order - 1) + 1
  positive := Nat.succ_pos _
  below := by
    have h : n % (Secp256k1.order - 1) < Secp256k1.order - 1 := Nat.mod_lt _ (by decide)
    omega

/-- The 32 bytes of a secret. -/
def bytes (s : SecretNumber) : FixedBytes 32 := FixedBytes.bigEndian 32 s.value

/-- The public key of a secret. -/
def publicKey (s : SecretNumber) : CurveKey := CurveKey.ofSecret s.value

/-- The signature of a message's SHA-256 digest. -/
def sign (s : SecretNumber) (message : List UInt8) : Signature :=
  ⟨.secp256k1, (Ecdsa.sign s.value (Digest.Sha2.sha256 message)).bytes⟩

/-- The taproot address. -/
def bitcoinAddress (s : SecretNumber) (network : Bitcoin.Network) : Bitcoin.Address :=
  Bitcoin.Address.ofKey s.publicKey.xOnly network

/-- The Nostr address. -/
def nostrAddress (s : SecretNumber) : Nostr.Address := Nostr.Address.ofKey s.publicKey.xOnly

/-- All addresses. -/
def view (s : SecretNumber) (network : Bitcoin.Network) : Nostr.View :=
  let bitcoin := s.bitcoinAddress network
  ⟨bitcoin, s.nostrAddress, bitcoin.account⟩

end SecretNumber

/-- A key that can sign. -/
inductive Keypair where
  | ed25519 (seed : FixedBytes 32)
  | secp256k1 (secret : SecretNumber)
  deriving DecidableEq

namespace Keypair

/-- The scheme of a key. -/
def scheme : Keypair → Scheme
  | ed25519 _ => .ed25519
  | secp256k1 _ => .secp256k1

/-- The public key. -/
def publicKey : Keypair → PublicKey
  | ed25519 seed => .ed25519 (Ed25519.publicKey seed)
  | secp256k1 secret => .secp256k1 secret.publicKey

/-- The 32 secret bytes. -/
def secretBytes : Keypair → FixedBytes 32
  | ed25519 seed => seed
  | secp256k1 secret => secret.bytes

/-- The signature of a message. -/
def sign (k : Keypair) (message : List UInt8) : Signature :=
  match k with
  | ed25519 seed => ⟨.ed25519, Ed25519.sign seed message⟩
  | secp256k1 secret => secret.sign message

/-- The native address of the owner. -/
def account (k : Keypair) : Account.Address := k.publicKey.account

/-- The secret number, if the key belongs to the second scheme. -/
def secretNumber? : Keypair → Option SecretNumber
  | ed25519 _ => none
  | secp256k1 secret => some secret

/-- The form that messages for developers use; it shows no secret. -/
def debugText (k : Keypair) : String :=
  let variant := match k with
    | ed25519 _ => "Ed25519"
    | secp256k1 _ => "Secp256k1"
  variant ++ "(" ++ variant ++ "Keypair \x7b public_key: " ++
    Quoted.quote k.publicKey.toText ++ ", .. \x7d)"

/-! ## Import -/

/-- The message that an imported key has to sign and verify. -/
def checkMessage : List UInt8 := Utf8.bytes "rooch validation"

/-- The key, if the public key verifies its signature of the message. -/
def selfCheck (k : Keypair) (key : PublicKey) : Except AuthError Keypair :=
  if key.verify checkMessage (k.sign checkMessage) then .ok k else .error (.selfCheck k.scheme)

/-- The key of a seed of 32 bytes, or of the 64 bytes of a seed and its public key. -/
def importEd25519 (bs : List UInt8) (skipCheck : Bool) : Except AuthError Keypair :=
  match FixedBytes.ofList? 32 bs with
  | some seed =>
      let k := ed25519 seed
      if skipCheck then .ok k else selfCheck k k.publicKey
  | none =>
      if bs.length = 64 then
        match FixedBytes.ofList? 32 (bs.take 32) with
        | none => .error (.secretLength .ed25519 bs.length)
        | some seed =>
            let k := ed25519 seed
            if skipCheck then .ok k
            else do
              let key ← PublicKey.ofBytes .ed25519 (bs.drop 32)
              selfCheck k key
      else .error (.secretLength .ed25519 bs.length)

/-- The key of 32 secret bytes. -/
def importSecp256k1 (bs : List UInt8) (skipCheck : Bool) : Except AuthError Keypair :=
  if bs.length ≠ secretLength then .error (.secretLength .secp256k1 bs.length)
  else
    match SecretNumber.ofBytes? bs with
    | none => .error (.badKey .secp256k1 (.curve .secretOutOfRange))
    | some secret =>
        let k := secp256k1 secret
        if skipCheck then .ok k else selfCheck k k.publicKey

/-- The key of secret bytes. -/
def ofSecretBytes (scheme : Scheme) (bs : List UInt8) (skipCheck : Bool) :
    Except AuthError Keypair :=
  match scheme with
  | .ed25519 => importEd25519 bs skipCheck
  | .secp256k1 => importSecp256k1 bs skipCheck

/-! ## New keys -/

/-- The key made of 32 random bytes.  For the second scheme they choose among all secret numbers. -/
def ofEntropy (scheme : Scheme) (bs : FixedBytes 32) : Keypair :=
  match scheme with
  | .ed25519 => ed25519 bs
  | .secp256k1 => secp256k1 (SecretNumber.ofEntropy (ofBigEndian bs.toList))

/-! ## Exported text -/

/-- The prefix of exported secrets. -/
def secretHrp : String := "roochsecretkey"

/-- The exported form. -/
def exportText (k : Keypair) : String :=
  Bech32.writeBytes .bech32 secretHrp (k.scheme.flag :: k.secretBytes.toList)

/-- Reads an exported key, and checks it. -/
def ofExportText (text : String) : Except AuthError Keypair :=
  match Bech32.read .bech32 text with
  | .error e => .error (.badSecret (.bech32 e))
  | .ok content =>
      if content.hrp ≠ secretHrp then .error (.wrongSecretPrefix secretHrp content.hrp)
      else
        match content.bytes with
        | [] => .error (.badSecret .empty)
        | flag :: secret => do
            let scheme ← Scheme.ofFlag flag
            if secret.length ≠ secretLength then .error (.secretLength scheme secret.length)
            else ofSecretBytes scheme secret false

end Keypair

end MoveWallet.Auth
