/-
# MoveWallet.Proofs.Account.Wire — addresses and object ids are read back, and in one form only

An address is its 32 bytes and an object id is a list of addresses, so both have the laws of the
codecs that they are made of.  The one thing that a reader of an object id refuses, the empty list,
is no path of an object id.
-/
import MoveWallet.Account.ObjectId
import MoveWallet.Proofs.Wire.Solid

namespace MoveWallet.Account

set_option autoImplicit false

open MoveWallet.Wire

/-! ## Addresses -/

theorem faithful_address : Address.codec.Faithful :=
  Codec.Reads.map (Codec.faithful_fixed 32) fun _ => rfl

theorem canonical_address : Address.codec.Canonical :=
  (Codec.canonical_fixed 32).map fun _ => rfl

theorem solid_address : Solid Address.codec.encode := Codec.solid_map (Codec.solid_fixed (by decide))

/-! ## Object ids -/

theorem faithful_objectId : ObjectId.codec.Faithful :=
  Codec.Reads.refine (Codec.Faithful.vec faithful_address solid_address)
    fun id => dif_pos id.path_ne_nil

theorem path_of_ofPath? {path : List Address} {id : ObjectId}
    (h : ObjectId.ofPath? path = some id) : id.path = path := by
  unfold ObjectId.ofPath? at h
  split at h
  · cases h
    rfl
  · cases h

theorem canonical_objectId : ObjectId.codec.Canonical :=
  canonical_address.vec.refine fun _ _ found => path_of_ofPath? found

/-- An object id can be written if the number of its addresses can. -/
theorem writes_objectId {id : ObjectId} : ObjectId.codec.Writes id ↔ id.path.length < 2 ^ 32 := by
  constructor
  · rintro ⟨bs, written⟩
    obtain ⟨s, t, count, -, -⟩ := Encoding.append_eq_ok.mp written
    exact (encodeLength_eq_ok.mp count).1
  · intro short
    exact Codec.writes_vec short fun a _ => ⟨a.bytes.toList, rfl⟩

end MoveWallet.Account
