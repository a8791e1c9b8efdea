/-
# MoveWallet.Bech32 — text of a prefix, groups of five bits and a checksum

A text is a prefix, the separator `1`, data characters of five bits each, and six characters of
checksum.  `read` accepts text in one case whose checksum is right for the variant asked for, and
gives the prefix in lower case and the groups; `write` gives the lower-case text.

Bytes are cut into groups by `groupsOf`, which fills the last group with zero bits.  `bytesOf` joins
groups to bytes and drops the bits that are left over, whatever they are; a format that wants one
text for one value has to look at them itself (`leftoverIsZero`).
-/

namespace MoveWallet.Bech32

set_option autoImplicit false

/-! ## Variants and faults -/

/-- The two checksum constants in use. -/
inductive Variant where
  | bech32
  | bech32m
  deriving DecidableEq, Repr

/-- What the checksum of a valid text comes to. -/
def Variant.residue : Variant → Nat
  | .bech32 => 1
  | .bech32m => 0x2BC830A3

/-- Why a text was refused: its characters, or its length and checksum. -/
inductive Bech32Error where
  | malformed
  | badChecksum
  deriving DecidableEq, Repr

/-- The wording of a fault. -/
def Bech32Error.message : Bech32Error → String
  | .malformed => "parse failed"
  | .badChecksum => "invalid checksum"

/-! ## Groups of five bits -/

/-- Five bits of data, one character of text. -/
abbrev Group : Type := BitVec 5

/-- The characters of the groups 0 to 31. -/
def alphabet : List Char := "qpzry9x8gf2tvdw0s3jn54khce6mua7l".toList

/-- The character of a group. -/
def groupChar (g : Group) : Char := alphabet.getD g.toNat 'q'

/-- A letter of the first case, or the character itself. -/
def lower (c : Char) : Char :=
  if 'A' ≤ c && c ≤ 'Z' then Char.ofNat (c.toNat + 32) else c

/-- A capital letter. -/
def isUpper (c : Char) : Bool := 'A' ≤ c && c ≤ 'Z'

/-- A small letter. -/
def isLower (c : Char) : Bool := 'a' ≤ c && c ≤ 'z'

/-- The group of a character of either case. -/
def group? (c : Char) : Option Group :=
  (alphabet.findIdx? (· == lower c)).map (BitVec.ofNat 5 ·)

/-- The low `n` bits of a number, highest first. -/
def bitsOf : Nat → Nat → List Bool
  | 0, _ => []
  | n + 1, v => v.testBit n :: bitsOf n v

/-- Bits read as a number, highest first. -/
def ofBits (bs : List Bool) : Nat := bs.foldl (fun v b => 2 * v + b.toNat) 0

/-- `n` runs of `size` bits, from the front. -/
def runs (size : Nat) : Nat → List Bool → List (List Bool)
  | 0, _ => []
  | n + 1, bs => bs.take size :: runs size n (bs.drop size)

/-- The bits of bytes. -/
def bitsOfBytes (bs : List UInt8) : List Bool := bs.flatMap fun b => bitsOf 8 b.toNat

/-- The bits of groups. -/
def bitsOfGroups (gs : List Group) : List Bool := gs.flatMap fun g => bitsOf 5 g.toNat

/-- The groups of bytes, the last filled up with zero bits. -/
def groupsOf (bs : List UInt8) : List Group :=
  let count := (8 * bs.length + 4) / 5
  let bits := bitsOfBytes bs ++ List.replicate (5 * count - 8 * bs.length) false
  (runs 5 count bits).map fun r => BitVec.ofNat 5 (ofBits r)

/-- The whole bytes in groups; fewer than eight bits are left over and dropped. -/
def bytesOf (gs : List Group) : List UInt8 :=
  (runs 8 (5 * gs.length / 8) (bitsOfGroups gs)).map fun r => UInt8.ofNat (ofBits r)

/-- At most four bits are left over, and all are zero. -/
def leftoverIsZero (gs : List Group) : Bool :=
  let count := 5 * gs.length % 8
  count ≤ 4 && ((bitsOfGroups gs).drop (5 * gs.length - count)).all (! ·)

/-! ## Checksum -/

/-- The terms that the five highest bits of the state bring in, the lowest first. -/
def generators : List Nat := [0x3B6A57B2, 0x26508E6D, 0x1EA119FA, 0x3D4233DD, 0x2A1462B3]

/-- Takes one group into the state of the checksum. -/
def checksumStep (state group : Nat) : Nat :=
  let top := state >>> 25
  let shifted := ((state &&& 0x1FFFFFF) <<< 5) ^^^ group
  (generators.zipIdx).foldl (fun s (g, i) => if top.testBit i then s ^^^ g else s) shifted

/-- What a prefix contributes to the checksum: the high bits of its characters, a zero, and the low
bits. -/
def prefixGroups (hrp : List Char) : List Nat :=
  hrp.map (·.toNat / 32) ++ 0 :: hrp.map (·.toNat % 32)

/-- The state after a prefix in lower case and groups. -/
def checksumState (hrp : List Char) (gs : List Group) : Nat :=
  (prefixGroups hrp ++ gs.map BitVec.toNat).foldl checksumStep 1

/-- The six groups that complete a text. -/
def checksum (v : Variant) (hrp : List Char) (gs : List Group) : List Group :=
  let state := checksumState hrp (gs ++ List.replicate 6 0) ^^^ v.residue
  [25, 20, 15, 10, 5, 0].map fun shift => BitVec.ofNat 5 (state >>> shift)

/-! ## Texts -/

/-- What a text says: its prefix in lower case and its groups without the checksum. -/
structure Content where
  hrp : String
  groups : List Group
  deriving DecidableEq

/-- The lower-case text of a prefix and groups. -/
def write (v : Variant) (hrp : String) (gs : List Group) : String :=
  String.ofList (hrp.toList ++ '1' :: (gs ++ checksum v hrp.toList gs).map groupChar)

/-- The text of a prefix and bytes. -/
def writeBytes (v : Variant) (hrp : String) (bs : List UInt8) : String :=
  write v hrp (groupsOf bs)

/-- Cuts a text at its last separator. -/
def cut? : List Char → Option (List Char × List Char)
  | [] => none
  | c :: s =>
      match cut? s with
      | some (hrp, data) => some (c :: hrp, data)
      | none => if c = '1' then some ([], s) else none

/-- A prefix has 1 to 83 visible ASCII characters. -/
def isHrp (hrp : List Char) : Bool :=
  1 ≤ hrp.length && hrp.length ≤ 83 && hrp.all fun c => 33 ≤ c.toNat && c.toNat ≤ 126

/-- The greatest length of a text. -/
def maxLength : Nat := 1023

/-- The parts of a text whose characters are right: its prefix in lower case, and all its groups. -/
def parts? (s : List Char) : Option (List Char × List Group) := do
  let (hrp, data) ← cut? s
  let gs ← data.mapM group?
  if s.any isUpper && s.any isLower then none
  else if isHrp hrp then return (hrp.map lower, gs) else none

/-- Reads a text and checks its checksum. -/
def read (v : Variant) (text : String) : Except Bech32Error Content :=
  let s := text.toList
  match parts? s with
  | none => .error .malformed
  | some (hrp, gs) =>
      if s.length > maxLength || gs.length < 6 || checksumState hrp gs ≠ v.residue then
        .error .badChecksum
      else .ok ⟨String.ofList hrp, gs.take (gs.length - 6)⟩

/-- The bytes of a text, without any bits left over. -/
def Content.bytes (c : Content) : List UInt8 := bytesOf c.groups

end MoveWallet.Bech32
