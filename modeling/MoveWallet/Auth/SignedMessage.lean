/-
# MoveWallet.Auth.SignedMessage — transaction hashes framed as Bitcoin messages

A frame is a fixed text, the length of what follows in compact form, the message info and the
hash in hex.  A key signs the frame or its SHA-256 digest.  A `BitcoinPayload` carries the
signature, all of the frame but the hash, and the signer's key and address, so that it can be
checked against any hash.
-/
import MoveWallet.Auth.Keypair
import MoveWallet.Bitcoin.CompactSize

namespace MoveWallet.Auth

set_option autoImplicit false

open MoveWallet.Curve.Secp256k1 (CurveKey)
open MoveWallet.Text
open MoveWallet.Text.Separator

/-! ## Modes -/

/-- What a key signs: the digest of the frame, or the frame. -/
inductive SignMode where
  | hash
  | raw
  deriving DecidableEq, Repr

namespace SignMode

/-- The name of a mode. -/
def name : SignMode → String
  | .hash => "hash"
  | .raw => "raw"

/-- The mode with a name. -/
def ofName? : String → Option SignMode
  | "hash" => some .hash
  | "raw" => some .raw
  | _ => none

/-- The mode with a name, or a fault. -/
def parse (text : String) : Except AuthError SignMode :=
  match ofName? text with
  | some m => .ok m
  | none => .error (.unknownSignMode text)

end SignMode

/-! ## Frames -/

/-- The text that begins every frame, with its own length in front. -/
def framePrefix : String := "\x18Bitcoin Signed Message:\n"

/-- The text that begins the info of every transaction. -/
def infoPrefix : String := "Rooch Transaction:\n"

/-- A message: the info a wallet shows, and the hash. -/
structure SignedMessage where
  info : String
  hash : List UInt8
  deriving DecidableEq

/-- The info begins as a transaction's does. -/
def hasInfoPrefix (info : String) : Bool :=
  (dropPrefix? infoPrefix.toList info.toList).isSome

/-- The info with the transaction's beginning and a final line end, added where they are missing. -/
def normalizeInfo (info : String) : String :=
  let started := if hasInfoPrefix info then info else infoPrefix ++ info
  if started.toList.getLast? = some '\n' then started else started ++ "\n"

namespace SignedMessage

/-- The message for a hash, with its info normalized. -/
def normalized (hash : List UInt8) (info : String) : SignedMessage := ⟨normalizeInfo info, hash⟩

/-- The bytes that the length in a frame counts: the info and the hash in hex. -/
def body (m : SignedMessage) : List UInt8 :=
  Utf8.bytes m.info ++ Utf8.encode (Hex.encodeChars m.hash)

/-- The frame up to the info. -/
def head (m : SignedMessage) : List UInt8 :=
  Utf8.bytes framePrefix ++
    Bitcoin.CompactSize.write (Utf8.byteLength m.info + 2 * m.hash.length)

/-- The frame. -/
def frame (m : SignedMessage) : List UInt8 := m.head ++ m.body

/-- The digest of the frame. -/
def digest (m : SignedMessage) : List UInt8 := Digest.Sha2.sha256 m.frame

/-- The text a wallet shows. -/
def toText (m : SignedMessage) : String := m.info ++ Hex.encode m.hash

/-- What a key signs in a mode. -/
def signingBytes (m : SignedMessage) : SignMode → List UInt8
  | .hash => m.digest
  | .raw => m.frame

end SignedMessage

/-! ## Payloads -/

/-- A signature of a frame, and all that is needed to check it against a hash. -/
structure BitcoinPayload where
  signature : List UInt8
  head : List UInt8
  info : List UInt8
  publicKey : List UInt8
  fromAddress : List UInt8
  deriving DecidableEq

namespace BitcoinPayload

/-- The payload that shows a signature of a message's frame, a key and the text of an address. -/
def framed (m : SignedMessage) (signature : Signature) (key : CurveKey) (address : String) :
    BitcoinPayload where
  signature := signature.bytes.toList
  head := m.head
  info := Utf8.bytes m.info
  publicKey := key.compressed.toList
  fromAddress := Utf8.bytes address

/-- Five byte strings. -/
def codec : Wire.Codec BitcoinPayload :=
  let bytes := Wire.Codec.bytes
  (bytes.pair (bytes.pair (bytes.pair (bytes.pair bytes)))).map
    (fun (s, h, i, k, a) => ⟨s, h, i, k, a⟩)
    fun p => (p.signature, p.head, p.info, p.publicKey, p.fromAddress)

/-- The signer's address as text. -/
def fromAddressText (p : BitcoinPayload) : Except AuthError String :=
  match Utf8.decode p.fromAddress with
  | some text => .ok text
  | none => .error (.badFromAddress p.fromAddress)

/-- The message that the payload frames together with a hash. -/
def message (p : BitcoinPayload) (hash : List UInt8) : Except AuthError SignedMessage :=
  match Utf8.decode p.info with
  | none => .error (.badMessageInfo (Utf8.decodeLossy p.info))
  | some info => if hasInfoPrefix info then .ok ⟨info, hash⟩ else .error (.badMessageInfo info)

/-- Checks the payload against a hash: the frame has to match, the signature to verify, and the
signer's address to belong to the key.  The answer is the key. -/
def verify (p : BitcoinPayload) (hash : List UInt8) (mode : SignMode) :
    Except AuthError PublicKey := do
  let m ← p.message hash
  if m.head ≠ p.head then throw .verificationFailed
  let key ← PublicKey.ofBytes .secp256k1 p.publicKey
  let signature ← Signature.ofBytes .secp256k1 p.signature
  if key.verify (m.signingBytes mode) signature = false then throw .verificationFailed
  let text ← p.fromAddressText
  match Bitcoin.Address.parse text Bitcoin.Network.standard with
  | .error e => throw (.bitcoin e)
  | .ok address =>
      if address.account = key.account then return key else throw .verificationFailed

end BitcoinPayload

end MoveWallet.Auth
