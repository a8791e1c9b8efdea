/-
# MoveWallet.Curve.Ecdsa — signatures over a 32-byte digest

`sign` takes its nonce from the secret and the digest by RFC 6979 and answers with the lower of the
two possible `s`.  `verify` replaces a high `s` by the lower one first, so it treats both alike.
-/
import MoveWallet.Curve.Secp256k1
import MoveWallet.Digest.Sha2

namespace MoveWallet.Curve.Ecdsa

set_option autoImplicit false

open MoveWallet.Bytes.Endian
open MoveWallet.Bytes.Fixed
open MoveWallet.Curve.Modular
open MoveWallet.Curve.Secp256k1
open MoveWallet.Digest.Sha2

/-- A pair of numbers. -/
structure Signature where
  r : Nat
  s : Nat
  deriving DecidableEq, Repr

/-- The 64 bytes `r` and `s`. -/
def Signature.bytes (sig : Signature) : FixedBytes 64 :=
  ⟨bigEndian 32 sig.r ++ bigEndian 32 sig.s, by simp⟩

/-- The pair in 64 bytes. -/
def Signature.ofBytes (bs : FixedBytes 64) : Signature :=
  ⟨ofBigEndian (bs.toList.take 32), ofBigEndian (bs.toList.drop 32)⟩

/-- The lower of `s` and its negation. -/
def lowS (s : Nat) : Nat := if order / 2 < s then order - s else s

/-! ## Verifying -/

/-- Both numbers are from 1 to the order less one. -/
def Signature.inRange (sig : Signature) : Bool :=
  0 < sig.r && sig.r < order && 0 < sig.s && sig.s < order

/-- The equation of a signature with `s` in its lower form. -/
def satisfies (key : CurveKey) (digest : List UInt8) (r s : Nat) : Bool :=
  let w := inverse order s
  let z := ofBigEndian digest % order
  match combine (mul order z w) (mul order r w) key.toPoint with
  | .neutral => false
  | .affine x _ => x % order == r

/-- The key's owner signed the digest. -/
def verify (key : CurveKey) (digest : List UInt8) (sig : Signature) : Bool :=
  sig.inRange && satisfies key digest sig.r (lowS sig.s)

/-! ## Signing -/

/-- The generator of nonces: a key and a value. -/
structure NonceState where
  key : List UInt8
  value : List UInt8

/-- The state with `seed` mixed in after a marker byte. -/
def NonceState.mix (st : NonceState) (marker : UInt8) (seed : List UInt8) : NonceState :=
  let key := hmac256 st.key (st.value ++ marker :: seed)
  ⟨key, hmac256 key st.value⟩

/-- The state for a secret and a digest. -/
def NonceState.start (secret : Nat) (digest : List UInt8) : NonceState :=
  let seed := bigEndian 32 secret ++ bigEndian 32 (ofBigEndian digest % order)
  let st : NonceState := ⟨List.replicate 32 0, List.replicate 32 1⟩
  (st.mix 0 seed).mix 1 seed

/-- The next candidate and the state for the one after it. -/
def NonceState.next (st : NonceState) : Nat × NonceState :=
  let value := hmac256 st.key st.value
  (ofBigEndian value, (⟨st.key, value⟩ : NonceState).mix 0 [])

/-- The signature that a nonce gives, if it gives one. -/
def signWith? (secret : Nat) (digest : List UInt8) (nonce : Nat) : Option Signature :=
  if nonce = 0 || order ≤ nonce then none
  else match multiple nonce with
    | .neutral => none
    | .affine x _ =>
        let r := x % order
        let z := ofBigEndian digest % order
        let s := mul order (inverse order nonce) ((z + r * secret) % order)
        if r = 0 || s = 0 then none else some ⟨r, lowS s⟩

/-- The signature of the first good candidate of `left`. -/
def signFrom (secret : Nat) (digest : List UInt8) : Nat → NonceState → Option Signature
  | 0, _ => none
  | left + 1, st =>
      let (nonce, st') := st.next
      match signWith? secret digest nonce with
      | some sig => some sig
      | none => signFrom secret digest left st'

/-- The signature of a digest.  A candidate fails with probability about 2^-128, so eight are more
than enough; were all to fail, the answer would be a pair that verifies nowhere. -/
def sign (secret : Nat) (digest : List UInt8) : Signature :=
  (signFrom secret digest 8 (NonceState.start secret digest)).getD ⟨0, 0⟩

end MoveWallet.Curve.Ecdsa
