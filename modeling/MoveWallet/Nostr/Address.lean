/-
# MoveWallet.Nostr.Address — Nostr addresses, and all addresses of one key

A Nostr address is the bech32 text of a key's 32 bytes with the prefix `npub`.  `View` holds the
Bitcoin, the Nostr and the native address of one key; the last comes from the taproot address.
-/
import MoveWallet.Bitcoin.Address

namespace MoveWallet.Nostr

set_option autoImplicit false

open MoveWallet.Bitcoin (AddressError Network)
open MoveWallet.Curve.Secp256k1 (XOnlyKey)

/-- A Nostr address with its text in lower case. -/
structure Address where
  text : String
  key : XOnlyKey
  deriving DecidableEq

namespace Address

/-- The prefix of Nostr addresses. -/
def hrp : String := "npub"

/-- The address of a key. -/
def ofKey (key : XOnlyKey) : Address := ⟨Bech32.writeBytes .bech32 hrp key.bytes.toList, key⟩

/-- The address of a key in 33 or 32 bytes. -/
def ofPublicKey (bs : List UInt8) : Except AddressError Address := do
  let key ← Bitcoin.Address.readKey bs
  return ofKey key

/-- Reads an address. -/
def parse (text : String) : Except AddressError Address :=
  match Bech32.read .bech32 text with
  | .error e => .error (.badNostr text (.bech32 e))
  | .ok content =>
      if content.hrp ≠ hrp then .error (.badNostr text (.hrp content.hrp))
      else
        let bs := content.bytes
        if bs.length ≠ 32 then .error (.badNostr text (.keyLength bs.length))
        else
          match XOnlyKey.ofBytes? bs with
          | some key => .ok ⟨String.ofList (text.toList.map Bech32.lower), key⟩
          | none => .error (.badPublicKey .malformedPublicKey)

/-- The taproot address of the same key, made from the key's bytes. -/
def toBitcoin (a : Address) (network : Network) : Except AddressError Bitcoin.Address :=
  Bitcoin.Address.ofPublicKey a.key.bytes.toList network

/-- The native address of the owner. -/
def account (a : Address) : Account.Address := Bitcoin.taprootAccount a.key

end Address

/-- Every address of one key. -/
structure View where
  bitcoin : Bitcoin.Address
  nostr : Address
  account : Account.Address
  deriving DecidableEq

/-- The addresses of a key in 33 or 32 bytes. -/
def View.ofPublicKey (bs : List UInt8) (network : Network) : Except AddressError View := do
  let bitcoin ← Bitcoin.Address.ofPublicKey bs network
  let nostr ← Address.ofPublicKey bs
  return ⟨bitcoin, nostr, bitcoin.account⟩

end MoveWallet.Nostr
