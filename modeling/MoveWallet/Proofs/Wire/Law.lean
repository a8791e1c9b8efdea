/-
# MoveWallet.Proofs.Wire.Law — laws of codecs, and how compositions keep them

* `Codec.Reads`: where the bytes of a value stand, the reader answers the value or its fault.
* `Codec.Canonical`: a reader answers a value only where the bytes of that value stand.
* `PrefixFree`: bytes that begin with the bytes of two values begin with those of one.
* `Solid`: no value is written as nothing, so a list has no more items than bytes.

Each law is proved of the primitive codecs and carried through `pair`, `map`, `refine`, `vec` and
`option`, so a record has it once its fields do.
-/
import MoveWallet.Proofs.Bytes.Endian
import MoveWallet.Proofs.Text.Utf8
import MoveWallet.Proofs.Wire.Reader

namespace MoveWallet.Wire

set_option autoImplicit false

open MoveWallet.Bytes.Endian
open MoveWallet.Bytes.Fixed
open MoveWallet.Text

variable {α β : Type}

/-! ## The laws -/

/-- Where the bytes of a value stand they are read as it, or the reader fails with the fault that
the value has. -/
def Codec.Reads (c : Codec α) (fault : α → Option WireError) : Prop :=
  ∀ ⦃a : α⦄ ⦃bs : List UInt8⦄ ⦃c₁ c₂ : Cursor⦄, c.encode a = .ok bs → c₁.Spans bs c₂ →
    c.decode.Answers c₁ (fault a) a c₂

/-- Every value that can be written is read back. -/
abbrev Codec.Faithful (c : Codec α) : Prop := c.Reads fun _ => none

/-- What is read as a value is its bytes. -/
def Codec.Canonical (c : Codec α) : Prop :=
  ∀ ⦃a : α⦄ ⦃c₁ c₂ : Cursor⦄, c.decode c₁ = (.ok a, c₂) →
    ∃ bs, c.encode a = .ok bs ∧ c₁.Spans bs c₂

/-- No beginning of bytes is that of two values. -/
def PrefixFree (encode : α → Encoding) : Prop :=
  ∀ ⦃a b : α⦄ ⦃s t r r' : List UInt8⦄,
    encode a = .ok s → encode b = .ok t → s ++ r = t ++ r' → a = b

/-- Every value takes at least one byte. -/
def Solid (encode : α → Encoding) : Prop :=
  ∀ ⦃a : α⦄ ⦃bs : List UInt8⦄, encode a = .ok bs → bs ≠ []

/-- Two ends of the same bytes, once their beginnings are known to be of one value. -/
theorem PrefixFree.ends {encode : α → Encoding} (h : PrefixFree encode) {a b : α}
    {s t r r' : List UInt8} (ha : encode a = .ok s) (hb : encode b = .ok t) (e : s ++ r = t ++ r') :
    a = b ∧ r = r' := by
  obtain rfl := h ha hb e
  rw [ha] at hb
  cases hb
  exact ⟨rfl, List.append_cancel_left e⟩

namespace Codec

variable {c : Codec α} {d : Codec β}

/-- A codec that reads two values reads no bytes as both. -/
theorem Reads.eq_of_append_eq {fault : α → Option WireError} (h : c.Reads fault) {a b : α}
    {s t r r' : List UInt8} (ha : c.encode a = .ok s) (hb : c.encode b = .ok t)
    (e : s ++ r = t ++ r') (fa : fault a = none) (fb : fault b = none) : a = b := by
  have readA := h ha (Cursor.Spans.start_append s r)
  have readB := h hb (Cursor.Spans.start_append t r')
  rw [fa] at readA
  rw [fb, ← e] at readB
  have same := Prod.ext_iff.mp (readA.symm.trans readB)
  exact Except.ok.inj same.1

theorem Faithful.prefixFree (h : c.Faithful) : PrefixFree c.encode := by
  intro a b s t r r' ha hb e
  exact h.eq_of_append_eq ha hb e rfl rfl

/-! ## Whole buffers -/

/-- The bytes of a value that is read back are read as a whole buffer. -/
theorem Reads.decodeExact {fault : α → Option WireError} (h : c.Reads fault) {a : α}
    {bs : List UInt8} (written : c.encode a = .ok bs) (f : fault a = none) :
    c.decodeExact bs = .ok a := by
  have span := Cursor.Spans.start_append bs []
  rw [List.append_nil] at span
  have read := h written span
  rw [f] at read
  have result : c.decode (Cursor.start bs) = (.ok a, ⟨bs.length, []⟩) := read
  rw [Codec.decodeExact, Decoder.run, result]
  rfl

/-- The fault of a value is the answer of a whole buffer. -/
theorem Reads.decodeExact_error {fault : α → Option WireError} (h : c.Reads fault) {a : α}
    {bs : List UInt8} {e : WireError} (written : c.encode a = .ok bs) (f : fault a = some e) :
    c.decodeExact bs = .error e := by
  have span := Cursor.Spans.start_append bs []
  rw [List.append_nil] at span
  have read := h written span
  rw [f] at read
  obtain ⟨c₂, result⟩ := read
  rw [Codec.decodeExact, Decoder.run, result]

/-- A whole buffer read as a value is its bytes. -/
theorem Canonical.encode_of_exact (h : c.Canonical) {a : α} {bs : List UInt8}
    (read : c.decodeExact bs = .ok a) : c.encode a = .ok bs := by
  unfold Codec.decodeExact Decoder.run at read
  split at read
  · rename_i b c₂ result
    split at read
    · rename_i whole
      cases read
      obtain ⟨s, written, span⟩ := h result
      have empty : c₂.rest = [] := List.eq_nil_of_length_eq_zero whole
      have all : bs = s := by
        have rest := span.rest
        rwa [empty, List.append_nil] at rest
      rwa [all]
    · cases read
  · cases read

/-- A whole buffer is read as a value exactly if it is the bytes of the value and the value has no
fault. -/
theorem Reads.decodeExact_eq_ok_iff {fault : α → Option WireError} (h : c.Reads fault)
    (k : c.Canonical) {a : α} {bs : List UInt8} :
    c.decodeExact bs = .ok a ↔ c.encode a = .ok bs ∧ fault a = none := by
  constructor
  · intro read
    have written := k.encode_of_exact read
    refine ⟨written, ?_⟩
    by_contra faulty
    obtain ⟨e, found⟩ := Option.ne_none_iff_exists'.mp faulty
    rw [h.decodeExact_error written found] at read
    cases read
  · rintro ⟨written, sound⟩
    exact h.decodeExact written sound

/-- Where encodings are prefix-free, a buffer that the bytes of a value begin, or that begins them,
is refused unless it is those bytes. -/
theorem Canonical.decodeExact_error (h : c.Canonical) (k : PrefixFree c.encode) {a : α}
    {bs other : List UInt8} (written : c.encode a = .ok bs) (near : other <+: bs ∨ bs <+: other)
    (different : other ≠ bs) : ∃ e, c.decodeExact other = .error e := by
  rcases result : c.decodeExact other with e | b
  · exact ⟨e, rfl⟩
  · have written' := h.encode_of_exact result
    have same : a = b := by
      rcases near with ⟨r, whole⟩ | ⟨r, whole⟩
      · exact k written written' ((List.append_nil bs).trans whole.symm)
      · exact k written written' (whole.trans (List.append_nil other).symm)
    rw [← same, written] at written'
    cases written'
    exact absurd rfl different

/-! ## Pairs -/

theorem Reads.pair {f : α → Option WireError} {g : β → Option WireError} (h : c.Reads f)
    (k : d.Reads g) : (c.pair d).Reads fun p => (f p.1).or (g p.2) := by
  intro p bs c₁ c₃ written span
  obtain ⟨s, t, first, second, rfl⟩ := Encoding.append_eq_ok.mp written
  obtain ⟨c₂, before, behind⟩ := span.split
  exact (h first before).bind (f := fun a => d.decode >>= fun b => pure (a, b))
    (k second behind).map

theorem Faithful.pair (h : c.Faithful) (k : d.Faithful) : (c.pair d).Faithful := Reads.pair h k

theorem Canonical.pair (h : c.Canonical) (k : d.Canonical) : (c.pair d).Canonical := by
  intro p c₁ c₃ read
  obtain ⟨a, c₂, first, rest⟩ := Decoder.bind_eq_ok.mp read
  obtain ⟨b, c₄, second, made⟩ := Decoder.bind_eq_ok.mp rest
  obtain ⟨rfl, rfl⟩ := Decoder.pure_eq_ok.mp made
  obtain ⟨s, writtenA, before⟩ := h first
  obtain ⟨t, writtenB, behind⟩ := k second
  exact ⟨s ++ t, Encoding.append_eq_ok.mpr ⟨s, t, writtenA, writtenB, rfl⟩, before.append behind⟩

theorem prefixFree_pair (h : PrefixFree c.encode) (k : PrefixFree d.encode) :
    PrefixFree (c.pair d).encode := by
  intro p q s t r r' hp hq e
  obtain ⟨s₁, s₂, first, second, rfl⟩ := Encoding.append_eq_ok.mp hp
  obtain ⟨t₁, t₂, first', second', rfl⟩ := Encoding.append_eq_ok.mp hq
  rw [List.append_assoc, List.append_assoc] at e
  obtain ⟨left, e⟩ := h.ends first first' e
  exact Prod.ext left (k second second' e)

/-! ## The same values under another type -/

section

variable {build : α → β} {parts : β → α}

theorem Reads.map {f : α → Option WireError} (h : c.Reads f) (back : ∀ b, build (parts b) = b) :
    (c.map build parts).Reads fun b => f (parts b) := by
  intro b bs c₁ c₂ written span
  have read := (h written span).map (g := build)
  rwa [back] at read

theorem Canonical.map (h : c.Canonical) (forth : ∀ a, parts (build a) = a) :
    (c.map build parts).Canonical := by
  intro b c₁ c₂ read
  obtain ⟨a, mid, first, made⟩ := Decoder.bind_eq_ok.mp read
  obtain ⟨rfl, rfl⟩ := Decoder.pure_eq_ok.mp made
  obtain ⟨bs, written, span⟩ := h first
  refine ⟨bs, ?_, span⟩
  show c.encode (parts (build a)) = .ok bs
  rwa [forth]

theorem prefixFree_map (h : PrefixFree c.encode) (back : ∀ b, build (parts b) = b) :
    PrefixFree (c.map build parts).encode := by
  intro a b s t r r' ha hb e
  rw [← back a, ← back b, h ha hb e]

variable {e : WireError} {build? : α → Option β}

theorem Reads.refine {f : α → Option WireError} (h : c.Reads f)
    (back : ∀ b, build? (parts b) = some b) :
    (c.refine e build? parts).Reads fun b => f (parts b) := by
  intro b bs c₁ c₂ written span
  have found : (Decoder.ofOption e (build? (parts b))).Answers c₂ none b c₂ := by
    rw [back]
    rfl
  have read := (h written span).bind (f := fun a => Decoder.ofOption e (build? a)) found
  rwa [Option.or_none] at read

theorem Canonical.refine (h : c.Canonical) (forth : ∀ a b, build? a = some b → parts b = a) :
    (c.refine e build? parts).Canonical := by
  intro b c₁ c₂ read
  obtain ⟨a, mid, first, made⟩ := Decoder.bind_eq_ok.mp read
  obtain ⟨found, rfl⟩ := Decoder.ofOption_eq_ok.mp made
  obtain ⟨bs, written, span⟩ := h first
  refine ⟨bs, ?_, span⟩
  show c.encode (parts b) = .ok bs
  rwa [forth a b found]

end

/-! ## Integers, truth values and bytes -/

theorem faithful_uint (w : Width) : (uint w).Faithful := by
  intro n bs c₁ c₂ written span
  cases written
  have size : (littleEndian w.bytes n.toNat).length = w.bytes := length_littleEndian _ _
  have range : n.toNat < 256 ^ w.bytes := by
    have bound := n.isLt
    cases w <;> exact bound
  have read := Decoder.readBytes_of_spans span
  rw [size] at read
  have value : BitVec.ofNat w.bits (ofLittleEndian (littleEndian w.bytes n.toNat)) = n := by
    rw [ofLittleEndian_littleEndian range, BitVec.ofNat_toNat, BitVec.setWidth_eq]
  have answer := Decoder.bind_of_ok (f := fun bs => pure (BitVec.ofNat w.bits (ofLittleEndian bs)))
    read
  rwa [value] at answer

theorem canonical_uint (w : Width) : (uint w).Canonical := by
  intro n c₁ c₂ read
  obtain ⟨bs, mid, first, made⟩ := Decoder.bind_eq_ok.mp read
  obtain ⟨rfl, rfl⟩ := Decoder.pure_eq_ok.mp made
  obtain ⟨size, span⟩ := Decoder.spans_of_readBytes first
  refine ⟨bs, ?_, span⟩
  have bound : ofLittleEndian bs < 2 ^ w.bits := by
    have below := ofLittleEndian_lt bs
    rw [size] at below
    cases w <;> exact below
  show Except.ok (littleEndian w.bytes (BitVec.ofNat w.bits (ofLittleEndian bs)).toNat) = .ok bs
  rw [BitVec.toNat_ofNat, Nat.mod_eq_of_lt bound, ← size, littleEndian_ofLittleEndian]

theorem faithful_word : word.Faithful :=
  Reads.map (faithful_uint .w64) fun _ => rfl

theorem canonical_word : word.Canonical :=
  Canonical.map (canonical_uint .w64)
    fun _ => rfl

theorem faithful_uleb128 : uleb128.Faithful := by
  intro n bs c₁ c₂ written span
  cases written
  exact Uleb128.decode_of_spans span

theorem canonical_uleb128 : uleb128.Canonical := by
  intro n c₁ c₂ read
  exact ⟨Uleb128.encode n, rfl, Uleb128.spans_of_decode read⟩

theorem faithful_bool : bool.Faithful := by
  intro value bs c₁ c₂ written span
  cases value with
  | false =>
    cases written
    exact Decoder.bind_of_ok (Uleb128.readByte_of_spans span)
  | true =>
    cases written
    exact Decoder.bind_of_ok (Uleb128.readByte_of_spans span)

theorem canonical_bool : bool.Canonical := by
  intro value c₁ c₂ read
  obtain ⟨b, mid, first, rest⟩ := Decoder.bind_eq_ok.mp read
  have mark := Uleb128.spans_of_readByte first
  split at rest
  · rename_i zero
    obtain ⟨rfl, rfl⟩ := Decoder.pure_eq_ok.mp rest
    exact ⟨[0], rfl, zero ▸ mark⟩
  · split at rest
    · rename_i one
      obtain ⟨rfl, rfl⟩ := Decoder.pure_eq_ok.mp rest
      exact ⟨[1], rfl, one ▸ mark⟩
    · exact absurd rest Decoder.fail_eq_ok

theorem faithful_fixed (n : Nat) : (fixed n).Faithful := by
  intro a bs c₁ c₂ written span
  cases written
  exact Decoder.readFixed_of_spans span

theorem canonical_fixed (n : Nat) : (fixed n).Canonical := by
  intro a c₁ c₂ read
  exact ⟨a.toList, rfl, Decoder.spans_of_readFixed read⟩

/-! ## Lengths and variants -/

theorem prefixFree_encodeLength : PrefixFree encodeLength := by
  intro m n s t r r' hm hn e
  obtain ⟨small, rfl⟩ := encodeLength_eq_ok.mp hm
  obtain ⟨small', rfl⟩ := encodeLength_eq_ok.mp hn
  have same : UInt32.ofNat m = UInt32.ofNat n := faithful_uleb128.prefixFree rfl rfl e
  have number := congrArg UInt32.toNat same
  rwa [UInt32.toNat_ofNat', UInt32.toNat_ofNat', Nat.mod_eq_of_lt small,
    Nat.mod_eq_of_lt small'] at number

/-- Indices of variants are told apart before what follows them. -/
theorem variant_ends {i j : UInt32} {x y : Encoding} {s t r r' : List UInt8}
    (hi : encodeVariant i ++ x = .ok s) (hj : encodeVariant j ++ y = .ok t) (e : s ++ r = t ++ r') :
    i = j ∧ ∃ u v, x = .ok u ∧ y = .ok v ∧ u ++ r = v ++ r' := by
  obtain ⟨u, tail, rfl⟩ := encodeVariant_append_eq_ok.mp hi
  obtain ⟨v, tail', rfl⟩ := encodeVariant_append_eq_ok.mp hj
  rw [List.append_assoc, List.append_assoc] at e
  have indices : PrefixFree uleb128.encode := faithful_uleb128.prefixFree
  obtain ⟨same, e⟩ := indices.ends rfl rfl e
  exact ⟨same, u, v, tail, tail', e⟩

/-- What is read behind the index of a variant is written as that variant. -/
theorem Canonical.variant (h : c.Canonical) {build : α → β} {index : UInt32} {b : β}
    {c₁ c₂ c₃ : Cursor} (before : c₁.Spans (Uleb128.encode index) c₂)
    (read : (c.decode >>= fun a => pure (build a)) c₂ = (.ok b, c₃)) :
    ∃ a bs, b = build a ∧ encodeVariant index ++ c.encode a = .ok bs ∧ c₁.Spans bs c₃ := by
  obtain ⟨a, mid, content, made⟩ := Decoder.bind_eq_ok.mp read
  obtain ⟨rfl, rfl⟩ := Decoder.pure_eq_ok.mp made
  obtain ⟨u, written, behind⟩ := h content
  exact ⟨a, _, rfl, encodeVariant_append_eq_ok.mpr ⟨u, written, rfl⟩, before.append behind⟩

theorem solid_encodeLength : Solid encodeLength := by
  intro n bs written
  obtain ⟨-, rfl⟩ := encodeLength_eq_ok.mp written
  exact Uleb128.encode_ne_nil _

/-! ## Byte strings and text -/

theorem faithful_bytes : bytes.Faithful := by
  intro content bs c₁ c₃ written span
  obtain ⟨s, t, count, items, rfl⟩ := Encoding.append_eq_ok.mp written
  cases items
  obtain ⟨c₂, before, behind⟩ := span.split
  have enough : content.length ≤ c₂.rest.length := by
    rw [behind.rest, List.length_append]
    exact Nat.le_add_right _ _
  have length := decodeLength_of_spans count before enough
  exact (Decoder.bind_of_ok length).trans (Decoder.readAnnounced_of_spans behind)

theorem canonical_bytes : bytes.Canonical := by
  intro content c₁ c₃ read
  obtain ⟨n, c₂, length, items⟩ := Decoder.bind_eq_ok.mp read
  obtain ⟨s, count, before⟩ := spans_of_decodeLength length
  obtain ⟨rfl, behind⟩ := Decoder.spans_of_readAnnounced items
  exact ⟨s ++ content, Encoding.append_eq_ok.mpr ⟨s, content, count, rfl, rfl⟩,
    before.append behind⟩

theorem solid_bytes : Solid bytes.encode := by
  intro content bs written
  obtain ⟨s, t, count, items, rfl⟩ := Encoding.append_eq_ok.mp written
  exact List.append_ne_nil_of_left_ne_nil (solid_encodeLength count) t

theorem faithful_text : text.Faithful :=
  Reads.refine faithful_bytes Utf8.decode_bytes

theorem canonical_text : text.Canonical :=
  Canonical.refine canonical_bytes
    fun _ _ found => Utf8.bytes_of_decode found

/-! ## Lists -/

/-- A list takes at least as many bytes as it has items. -/
theorem length_le_of_encodeMany (h : Solid c.encode) {as : List α} {bs : List UInt8}
    (written : encodeMany c.encode as = .ok bs) : as.length ≤ bs.length := by
  induction as generalizing bs with
  | nil => exact Nat.zero_le _
  | cons a as ih =>
    obtain ⟨s, t, first, second, rfl⟩ := Encoding.append_eq_ok.mp written
    have one : 0 < s.length := List.length_pos_iff.mpr (h first)
    have others : as.length ≤ t.length := ih second
    rw [List.length_cons, List.length_append]
    omega

/-- Items are read up to the first that has a fault. -/
theorem Reads.readMany {f : α → Option WireError} (h : c.Reads f) {as : List α} {bs : List UInt8}
    {c₁ c₂ : Cursor} (written : encodeMany c.encode as = .ok bs) (span : c₁.Spans bs c₂) :
    (c.decode.readMany as.length).Answers c₁ (as.findSome? f) as c₂ := by
  induction as generalizing bs c₁ with
  | nil =>
    cases written
    obtain rfl := span.eq_of_nil
    rfl
  | cons a as ih =>
    obtain ⟨s, t, first, second, rfl⟩ := Encoding.append_eq_ok.mp written
    obtain ⟨mid, before, behind⟩ := span.split
    have fault : (a :: as).findSome? f = (f a).or (as.findSome? f) := by
      rw [List.findSome?_cons]
      cases f a with
      | none => rfl
      | some e => rfl
    rw [fault]
    exact (h first before).bind
      (f := fun a => c.decode.readMany as.length >>= fun as => pure (a :: as))
      (ih second behind).map

theorem Reads.vec {f : α → Option WireError} (h : c.Reads f) (solid : Solid c.encode) :
    (Codec.vec c).Reads fun as => as.findSome? f := by
  intro as bs c₁ c₃ written span
  obtain ⟨s, t, count, items, rfl⟩ := Encoding.append_eq_ok.mp written
  obtain ⟨c₂, before, behind⟩ := span.split
  have enough : as.length ≤ c₂.rest.length := by
    have size := length_le_of_encodeMany solid items
    rw [behind.rest, List.length_append]
    omega
  have length : decodeLength.Answers c₁ none as.length c₂ :=
    decodeLength_of_spans count before enough
  exact length.bind (f := fun n => c.decode.readMany n) (h.readMany items behind)

theorem Faithful.vec (h : c.Faithful) (solid : Solid c.encode) : (Codec.vec c).Faithful := by
  intro as bs c₁ c₂ written span
  have read := Reads.vec h solid written span
  have clean : as.findSome? (fun _ => (none : Option WireError)) = none :=
    List.findSome?_eq_none_iff.mpr fun _ _ => rfl
  exact clean ▸ read

/-- Items read in sequence were written in sequence. -/
theorem Canonical.readMany (h : c.Canonical) {n : Nat} {as : List α} {c₁ c₂ : Cursor}
    (read : c.decode.readMany n c₁ = (.ok as, c₂)) :
    as.length = n ∧ ∃ bs, encodeMany c.encode as = .ok bs ∧ c₁.Spans bs c₂ := by
  induction n generalizing as c₁ with
  | zero =>
    obtain ⟨rfl, rfl⟩ := Decoder.pure_eq_ok.mp read
    exact ⟨rfl, [], rfl, Cursor.Spans.nil c₁⟩
  | succ n ih =>
    obtain ⟨a, mid, first, rest⟩ := Decoder.bind_eq_ok.mp read
    obtain ⟨others, stop, second, made⟩ := Decoder.bind_eq_ok.mp rest
    obtain ⟨rfl, rfl⟩ := Decoder.pure_eq_ok.mp made
    obtain ⟨s, writtenA, before⟩ := h first
    obtain ⟨size, t, writtenB, behind⟩ := ih second
    exact ⟨congrArg (· + 1) size, s ++ t,
      Encoding.append_eq_ok.mpr ⟨s, t, writtenA, writtenB, rfl⟩, before.append behind⟩

theorem Canonical.vec (h : c.Canonical) : (Codec.vec c).Canonical := by
  intro as c₁ c₃ read
  obtain ⟨n, c₂, length, items⟩ := Decoder.bind_eq_ok.mp read
  obtain ⟨s, count, before⟩ := spans_of_decodeLength length
  obtain ⟨rfl, t, written, behind⟩ := h.readMany items
  exact ⟨s ++ t, Encoding.append_eq_ok.mpr ⟨s, t, count, written, rfl⟩, before.append behind⟩

/-- Lists of one length are told apart by their items. -/
theorem eq_of_encodeMany {encode : α → Encoding} (h : PrefixFree encode) {as bs : List α}
    {s t r r' : List UInt8} (size : as.length = bs.length) (ha : encodeMany encode as = .ok s)
    (hb : encodeMany encode bs = .ok t) (e : s ++ r = t ++ r') : as = bs := by
  induction as generalizing bs s t with
  | nil =>
    obtain rfl := List.eq_nil_of_length_eq_zero size.symm
    rfl
  | cons a as ih =>
    cases bs with
    | nil => cases size
    | cons b bs =>
      obtain ⟨s₁, s₂, first, second, rfl⟩ := Encoding.append_eq_ok.mp ha
      obtain ⟨t₁, t₂, first', second', rfl⟩ := Encoding.append_eq_ok.mp hb
      rw [List.append_assoc, List.append_assoc] at e
      obtain ⟨rfl, e⟩ := h.ends first first' e
      rw [ih (Nat.succ.inj size) second second' e]

theorem prefixFree_vec (h : PrefixFree c.encode) : PrefixFree (Codec.vec c).encode := by
  intro as bs s t r r' ha hb e
  obtain ⟨s₁, s₂, count, items, rfl⟩ := Encoding.append_eq_ok.mp ha
  obtain ⟨t₁, t₂, count', items', rfl⟩ := Encoding.append_eq_ok.mp hb
  rw [List.append_assoc, List.append_assoc] at e
  obtain ⟨size, e⟩ := prefixFree_encodeLength.ends count count' e
  exact eq_of_encodeMany h size items items' e

/-! ## Optional values -/

/-- No value is no fault; any other has that of what it holds. -/
theorem Reads.option {f : α → Option WireError} (h : c.Reads f) :
    (Codec.option c).Reads fun o => o.bind f := by
  intro o bs c₁ c₃ written span
  cases o with
  | none =>
    cases written
    exact Decoder.bind_of_ok (Uleb128.readByte_of_spans span)
  | some a =>
    obtain ⟨s, t, mark, value, rfl⟩ := Encoding.append_eq_ok.mp written
    cases mark
    obtain ⟨c₂, before, behind⟩ := span.split
    have read : Decoder.readByte.Answers c₁ none 1 c₂ := Uleb128.readByte_of_spans before
    exact read.bind (f := fun b : UInt8 => if b = 0 then return none
      else if b = 1 then do
        let a ← c.decode
        return some a
      else Decoder.fail (.badOptionTag b)) (h value behind).map

theorem Faithful.option (h : c.Faithful) : (Codec.option c).Faithful := by
  intro o bs c₁ c₂ written span
  have read := Reads.option h written span
  cases o with
  | none => exact read
  | some a => exact read

theorem Canonical.option (h : c.Canonical) : (Codec.option c).Canonical := by
  intro o c₁ c₃ read
  obtain ⟨b, c₂, first, rest⟩ := Decoder.bind_eq_ok.mp read
  have mark := Uleb128.spans_of_readByte first
  split at rest
  · rename_i zero
    obtain ⟨rfl, rfl⟩ := Decoder.pure_eq_ok.mp rest
    exact ⟨[0], rfl, zero ▸ mark⟩
  · split at rest
    · rename_i one
      obtain ⟨a, c₄, value, made⟩ := Decoder.bind_eq_ok.mp rest
      obtain ⟨rfl, rfl⟩ := Decoder.pure_eq_ok.mp made
      obtain ⟨bs, written, span⟩ := h value
      exact ⟨[1] ++ bs, Encoding.append_eq_ok.mpr ⟨[1], bs, rfl, written, rfl⟩,
        (one ▸ mark).append span⟩
    · exact absurd rest Decoder.fail_eq_ok

/-! ## Values that have bytes -/

/-- The value can be written. -/
def Writes (c : Codec α) (a : α) : Prop := ∃ bs, c.encode a = .ok bs

theorem writes_bytes {bs : List UInt8} : bytes.Writes bs ↔ bs.length < UInt32.size := by
  constructor
  · rintro ⟨b, written⟩
    obtain ⟨s, t, length, -, -⟩ := Encoding.append_eq_ok.mp written
    exact (encodeLength_eq_ok.mp length).1
  · intro small
    exact ⟨_, Encoding.append_eq_ok.mpr
      ⟨_, bs, encodeLength_eq_ok.mpr ⟨small, rfl⟩, rfl, rfl⟩⟩

theorem writes_pair {p : α × β} : (c.pair d).Writes p ↔ c.Writes p.1 ∧ d.Writes p.2 := by
  constructor
  · rintro ⟨b, written⟩
    obtain ⟨s, t, first, second, -⟩ := Encoding.append_eq_ok.mp written
    exact ⟨⟨s, first⟩, ⟨t, second⟩⟩
  · rintro ⟨⟨s, first⟩, ⟨t, second⟩⟩
    exact ⟨s ++ t, Encoding.append_eq_ok.mpr ⟨s, t, first, second, rfl⟩⟩

theorem writes_map {build : α → β} {parts : β → α} {b : β} :
    (c.map build parts).Writes b ↔ c.Writes (parts b) := Iff.rfl

theorem writes_refine {e : WireError} {build? : α → Option β} {parts : β → α} {b : β} :
    (c.refine e build? parts).Writes b ↔ c.Writes (parts b) := Iff.rfl

theorem writes_text {s : String} : text.Writes s ↔ (Utf8.bytes s).length < UInt32.size :=
  writes_bytes

/-- A list can be written if it is short enough and all its values can. -/
theorem writes_vec {as : List α} (short : as.length < UInt32.size) (each : ∀ a ∈ as, c.Writes a) :
    (Codec.vec c).Writes as := by
  have items : ∃ bs, encodeMany c.encode as = .ok bs := by
    clear short
    induction as with
    | nil => exact ⟨[], rfl⟩
    | cons a as ih =>
      rw [List.forall_mem_cons] at each
      obtain ⟨⟨s, first⟩, others⟩ := each
      obtain ⟨t, rest⟩ := ih others
      exact ⟨s ++ t, Encoding.append_eq_ok.mpr ⟨s, t, first, rest, rfl⟩⟩
  obtain ⟨t, written⟩ := items
  exact ⟨_, Encoding.append_eq_ok.mpr
    ⟨_, t, encodeLength_eq_ok.mpr ⟨short, rfl⟩, written, rfl⟩⟩

end Codec

end MoveWallet.Wire
