/-
# MoveWallet.Proofs.Command.AnyAddress — a text is described as the kind of address that it is

A text is tried as a native address first, and only its beginning decides between the other kinds.
That is right because the texts of the kinds are apart.  A native address begins with a hex digit or
with `r` (`begins_of_native`) and a Nostr address with `n`.  A Bitcoin address can begin with a digit
or with `n` as well, but not with `npub` or `rooch1`, and it has no marker of hex text in front
(`Bitcoin.apart_of_parse`); so it is taken for a native one only if it is hex digits throughout.
What is printed then says the kind and what belongs to it (`Describes`).
-/
import MoveWallet.Proofs.Auth.Spelling
import MoveWallet.Proofs.Bitcoin.Beginning
import MoveWallet.Proofs.Bitcoin.Hint
import MoveWallet.Proofs.Command.Report
import MoveWallet.Proofs.Nostr.Account

namespace MoveWallet.Command

set_option autoImplicit false

open MoveWallet.Account
open MoveWallet.Bech32 (lower)
open MoveWallet.Config
open MoveWallet.Document
open MoveWallet.Text
open MoveWallet.Text.Separator

namespace AnyAddress

variable {text : String} {a : Address} {n : Nostr.Address} {b : Bitcoin.Address}
  {hint : Bitcoin.Network}

/-! ## How texts begin -/

theorem looksLikeNostr_iff {s : List Char} :
    looksLikeNostr s = true ↔ "npub".toList <+: s.map lower := isSome_dropPrefix?

/-- A text that is read as a native address begins, without the blanks round it, with a hex digit or
with the letter of its prefix. -/
theorem begins_of_native (h : Address.parse text = .ok a) :
    ∃ c rest, Blank.trim text.toList = c :: rest ∧ (Hex.isDigit c = true ∨ lower c = 'r') := by
  have characters : (Address.trimmed text).toList = Blank.trim text.toList := String.toList_ofList
  rcases Address.parse_eq_ok_iff.mp h with hex | bech32
  · obtain ⟨c, rest, whole, digit⟩ := (Address.ofHexLiteral_eq_ok_iff.mp hex).exists_digit
    rw [characters] at whole
    exact ⟨c, rest, whole, .inl digit⟩
  · obtain ⟨rest, begun⟩ := isSome_dropPrefix?.mp (Address.looksLikeBech32_of_ofBech32 bech32)
    rw [characters] at begun
    obtain ⟨c, others, whole, first, -⟩ := List.map_eq_cons_iff.mp begun.symm
    exact ⟨c, others, whole, .inr first⟩

/-- A text that is read as a Nostr address has no blanks and begins with its prefix. -/
theorem begins_of_nostr (h : Nostr.Address.parse text = .ok n) :
    Blank.trim text.toList = text.toList ∧ "npub".toList <+: text.toList.map lower := by
  obtain ⟨-, -, pad, -, spelled⟩ := Nostr.Address.parse_eq_ok_iff.mp h
  have characters := congrArg String.toList spelled
  rw [Bech32.spell, Bech32.write, String.toList_ofList, Bech32.toList_toLower] at characters
  refine ⟨Blank.trim_of_tight (Bech32.tight_of_toLower (by decide) spelled), ?_⟩
  rw [← characters]
  exact List.prefix_append _ _

/-- No hex digit begins the prefix of a Nostr address. -/
theorem lower_ne_of_isDigit {c : Char} (digit : Hex.isDigit c = true) : lower c ≠ 'n' := by
  intro letter
  have same := (Hex.isDigit_facts (Hex.toNat_lt_of_isDigit digit)).1
  rw [← Bech32.lower_eq_toLower, letter, digit] at same
  cases same

/-- No text is read both as a Nostr address and as a native one. -/
theorem not_native_of_nostr (h : Nostr.Address.parse text = .ok n) : Address.parse text ≠ .ok a := by
  intro native
  obtain ⟨tight, begun⟩ := begins_of_nostr h
  obtain ⟨c, rest, whole, first⟩ := begins_of_native native
  rw [tight] at whole
  rw [whole] at begun
  have letter : 'n' = lower c := (List.cons_prefix_cons.mp begun).1
  rcases first with digit | prefixed
  · exact lower_ne_of_isDigit digit letter.symm
  · rw [prefixed] at letter
    cases letter

/-- A Bitcoin address is read as a native one only if it is hex digits throughout. -/
theorem digits_of_native_of_bitcoin (h : Bitcoin.Address.parse text hint = .ok b)
    (native : Address.parse text = .ok a) : text.toList.all Hex.isDigit = true := by
  obtain ⟨tight, unmarked, -, notNative⟩ := Bitcoin.apart_of_parse h
  have same : Address.trimmed text = text := by
    rw [Address.trimmed, Blank.trim_of_tight tight, String.ofList_toList]
  rcases Address.parse_eq_ok_iff.mp native with hex | bech32
  · rw [same] at hex
    rcases (Address.ofHexLiteral_eq_ok_iff.mp hex).marked_or_digits with marked | ⟨-, digits⟩
    · exact absurd marked unmarked
    · exact digits
  · rw [same] at bech32
    exact absurd (isSome_dropPrefix?.mp (Address.looksLikeBech32_of_ofBech32 bech32)) notNative

/-! ## What a text is taken for -/

theorem parse_native (h : Address.parse text = .ok a) (hint : Bitcoin.Network) :
    parse text hint = .ok (native a) := by
  have trimmed : Address.parse (String.ofList (Blank.trim text.toList)) = .ok a := by
    rw [Address.parse_eq_ok_iff, Address.trimmed, String.toList_ofList, Blank.trim_trim]
    exact Address.parse_eq_ok_iff.mp h
  simp only [parse, trimmed]

theorem parse_nostr (h : Nostr.Address.parse text = .ok n) (hint : Bitcoin.Network) :
    parse text hint = .ok (nostr n) := by
  obtain ⟨tight, begun⟩ := begins_of_nostr h
  rcases native : Address.parse text with e | a
  · simp only [parse, tight, String.ofList_toList, native, looksLikeNostr_iff.mpr begun, if_true, h]
    rfl
  · exact absurd native (not_native_of_nostr h)

/-- A text that is read as a Bitcoin address is taken for it, unless it is hex digits throughout. -/
theorem parse_bitcoin (h : Bitcoin.Address.parse text hint = .ok b)
    (mixed : text.toList.all Hex.isDigit = false) :
    parse text hint = .ok (bitcoin b) := by
  obtain ⟨tight, -, notNostr, -⟩ := Bitcoin.apart_of_parse h
  have other : looksLikeNostr text.toList = false := by
    rw [← Bool.not_eq_true, looksLikeNostr_iff]
    exact notNostr
  rcases native : Address.parse text with e | a
  · simp only [parse, Blank.trim_of_tight tight, String.ofList_toList, native, other,
      Bool.false_eq_true, if_false, h]
    rfl
  · rw [digits_of_native_of_bitcoin h native] at mixed
    cases mixed

/-- The summary of a Nostr address is always made: its key has a Bitcoin address. -/
theorem summary_nostr (n : Nostr.Address) (network : Bitcoin.Network) :
    (nostr n).summary network = .ok
      [("bitcoin_address", .text (Bitcoin.Address.ofKey n.key network).text),
        ("kind", .text "nostr"), ("nostr_address", .text n.text),
        ("rooch_address", .text n.account.toHexLong),
        ("rooch_bech32", .text n.account.toBech32)] := by
  rw [summary, Nostr.toBitcoin_eq]
  rfl

end AnyAddress

/-! ## What is printed -/

/-- A text is described: what is printed, read as JSON, is a table with these values under their
keys. -/
def Describes (s : Settings) (text : String) (entries : Entries) : Prop :=
  ∃ report all, describeAddress s text = .ok report ∧ Json.read? report = some (.table all) ∧
    ∀ e ∈ entries, field? e.1 all = some (some e.2)

/-- A text is described by the summary of what it is taken for. -/
theorem describes_of_parse {s : Settings} {text : String} {a : AnyAddress} {all entries : Entries}
    (parsed : AnyAddress.parse text s.bitcoinNetwork = .ok a)
    (said : a.summary s.bitcoinNetwork = .ok all) (among : entries ⊆ all) :
    Describes s text entries := by
  have reported := reports_address said
  refine ⟨printTable all, all, describeAddress_eq_ok.mpr ⟨a, all, parsed, said, rfl⟩,
    reported.read, ?_⟩
  intro e member
  exact field?_of_mem reported.once (among member)

/-- Every address is described as one of its kind, whatever the settings: a native address, with
blanks round it or not, with its 64-digit form; a Nostr address with that of its owner; and a Bitcoin
address that is not hex digits throughout with the bytes and the owner that any hint finds for it.
No Bitcoin address begins as a Nostr or a native one does, in either case, and no text is both a
Nostr and a native address. -/
theorem addresses_keep_their_kind :
    (∀ (s : Settings) (text : String) (a : Address), Address.parse text = .ok a →
      Describes s text
        [("kind", .text "rooch"), ("rooch_address", .text a.toHexLong)]) ∧
    (∀ (s : Settings) (text : String) (n : Nostr.Address), Nostr.Address.parse text = .ok n →
      Describes s text
        [("kind", .text "nostr"), ("nostr_address", .text n.text),
          ("rooch_address", .text n.account.toHexLong)]) ∧
    (∀ (s : Settings) (text : String) (hint : Bitcoin.Network) (b : Bitcoin.Address),
      Bitcoin.Address.parse text hint = .ok b → text.toList.all Hex.isDigit = false →
        Describes s text
          [("kind", .text "bitcoin"), ("bitcoin_address", .text text),
            ("wrapped_bytes", .text (Hex.encode b.wrapped)),
            ("rooch_address", .text b.account.toHexLong)]) ∧
    (∀ (text : String) (hint : Bitcoin.Network) (b : Bitcoin.Address),
      Bitcoin.Address.parse text hint = .ok b →
        ¬ "npub".toList <+: text.toList.map lower ∧ ¬ "rooch1".toList <+: text.toList.map lower) ∧
    (∀ (text : String) (n : Nostr.Address) (a : Address),
      Nostr.Address.parse text = .ok n → Address.parse text ≠ .ok a) := by
  refine ⟨?_, ?_, ?_, ?_, ?_⟩
  · intro s text a read
    apply describes_of_parse (AnyAddress.parse_native read _) rfl
    simp [AnyAddress.account]
  · intro s text n read
    apply describes_of_parse (AnyAddress.parse_nostr read _) (AnyAddress.summary_nostr n _)
    simp
  · intro s text hint b read mixed
    obtain ⟨found, second, payee⟩ := Bitcoin.exists_parse read s.bitcoinNetwork
    have named : found.text = text := (Bitcoin.mark_of_parse second).1
    apply describes_of_parse (AnyAddress.parse_bitcoin second mixed) rfl
    simp [AnyAddress.account, Bitcoin.Address.wrapped, Bitcoin.Address.account, named, payee]
  · intro text hint b read
    have apart := Bitcoin.apart_of_parse read
    exact ⟨apart.notNostr, apart.notNative⟩
  · intro text n a read
    exact AnyAddress.not_native_of_nostr read

/-- The generator of the curve as a Nostr address, and a test address that begins with the same
letter. -/
theorem addresses_keep_their_kind_of_samples :
    (∃ text n, Nostr.Address.parse text = .ok n ∧
      Describes .standard text
        [("kind", .text "nostr"), ("nostr_address", .text n.text),
          ("rooch_address", .text n.account.toHexLong)] ∧
      ∀ a, Address.parse text ≠ .ok a) ∧
    (∃ text b, Bitcoin.Address.parse text .testnet = .ok b ∧
      Describes .standard text
        [("kind", .text "bitcoin"), ("bitcoin_address", .text text),
          ("wrapped_bytes", .text (Hex.encode b.wrapped)),
          ("rooch_address", .text b.account.toHexLong)] ∧
      ['n'] <+: text.toList ∧ ¬ "npub".toList <+: text.toList.map lower) ∧
    Describes .standard "0x3"
      [("kind", .text "rooch"), ("rooch_address", .text (Address.toHexLong (.ofNat 3)))] := by
  obtain ⟨natives, nostrs, bitcoins, begins, apart⟩ := addresses_keep_their_kind
  have nostr : Nostr.Address.parse
      "npub10xlxvlhemja6c4dqv22uapctqupfhlxm9h8z3k2e72q4k9hcz7vqpkge6d" =
        .ok (Nostr.Address.ofKey Curve.Secp256k1.generatorKey.xOnly) := by decide +kernel
  have bitcoin : Bitcoin.Address.parse "n4rZHAPGXCu8bYchjzJhK3V7VVreascJxe" .testnet =
      .ok ⟨"n4rZHAPGXCu8bYchjzJhK3V7VVreascJxe", .testnet,
        .pubkeyHash ⟨List.replicate 20 0xFF, rfl⟩⟩ := by decide +kernel
  have native : Address.parse "0x3" = .ok (.ofNat 3) := by decide +kernel
  refine ⟨⟨_, _, nostr, nostrs _ _ _ nostr, fun a => apart _ _ a nostr⟩, ?_,
    natives _ _ _ native⟩
  exact ⟨_, _, bitcoin, bitcoins _ _ _ _ bitcoin (by decide), by decide, (begins _ _ _ bitcoin).1⟩

end MoveWallet.Command
