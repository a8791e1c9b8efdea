/-
# MoveWallet.Proofs.Command.Report — what a command prints says what it found

Every command but the one that signs prints one table.  The values in it are texts and words and no
key stands twice in it, so the printed text, read as JSON, is this table again and says one thing
under each key (`Reports`, `exists_reports`).  A command that prints anything else, or nothing,
reports no table.
-/
import MoveWallet.Command.Run
import MoveWallet.Proofs.Document.Json
import MoveWallet.Proofs.Wire.Answer

namespace MoveWallet.Document

set_option autoImplicit false

variable {key : String} {v : Value} {es : Entries}

theorem valuesOf_cons_self (key : String) (v : Value) (es : Entries) :
    valuesOf key ((key, v) :: es) = v :: valuesOf key es := by
  have here : ((key, v).1 == key) = true := beq_self_eq_true key
  rw [valuesOf, List.filter_cons, if_pos here, List.map_cons, valuesOf]

theorem valuesOf_cons_of_ne {e : String × Value} (other : e.1 ≠ key) (es : Entries) :
    valuesOf key (e :: es) = valuesOf key es := by
  have apart : ¬ (e.1 == key) = true := fun same => other (beq_iff_eq.mp same)
  rw [valuesOf, List.filter_cons, if_neg apart, valuesOf]

theorem valuesOf_eq_nil (absent : key ∉ es.map Prod.fst) : valuesOf key es = [] := by
  induction es with
  | nil => rfl
  | cons e es ih =>
    rw [List.map_cons, List.mem_cons, not_or] at absent
    rw [valuesOf_cons_of_ne (Ne.symm absent.1), ih absent.2]

/-- A value is found under its key if no key stands twice. -/
theorem field?_of_mem (once : (es.map Prod.fst).Nodup) (member : (key, v) ∈ es) :
    field? key es = some (some v) := by
  have alone : valuesOf key es = [v] := by
    induction es with
    | nil => cases member
    | cons e es ih =>
      rw [List.map_cons, List.nodup_cons] at once
      rcases List.mem_cons.mp member with rfl | behind
      · rw [valuesOf_cons_self, valuesOf_eq_nil once.1]
      · have named : key ∈ es.map Prod.fst := List.mem_map_of_mem behind
        have other : e.1 ≠ key := fun same => once.1 (same ▸ named)
        rw [valuesOf_cons_of_ne other, ih once.2 behind]
  rw [field?, alone]

end MoveWallet.Document

namespace MoveWallet.Command

set_option autoImplicit false

open MoveWallet.Account
open MoveWallet.Auth
open MoveWallet.Config
open MoveWallet.Document
open MoveWallet.Transaction
open MoveWallet.Wire

@[simp] theorem Fault.lift_eq_ok {α ε : Type} {wrap : ε → Fault} {x : Except ε α} {a : α} :
    Fault.lift wrap x = .ok a ↔ x = .ok a := by
  cases x with
  | error e => simp [Fault.lift]
  | ok b => simp [Fault.lift]

/-- A text reports a table: it is what is printed of the table, reading it gives the table back, and
the table says one thing under each of its keys. -/
structure Reports (text : String) (es : Entries) : Prop where
  printed : text = printTable es
  read : Json.read? text = some (.table es)
  once : (es.map Prod.fst).Nodup

/-- A plain table is reported by what is printed of it. -/
theorem reports_printTable {es : Entries} (plain : ∀ e ∈ es, Json.Plain e.2)
    (once : (es.map Prod.fst).Nodup) : Reports (printTable es) es where
  printed := rfl
  read := by
    have back := Json.read?_write (.table es plain) 0 "" "\n" rfl rfl
    rw [String.empty_append] at back
    exact back
  once := once

/-! ## What is reported -/

theorem plain_word (n : UInt64) : Json.Plain (.integer n.toNat) := by
  have small := n.toNat_lt_size
  exact .integer _ (by omega) (by omega)

theorem reports_transaction (t : Signed) (hash : Digest32) :
    Reports (printTable (transactionSummary t hash)) (transactionSummary t hash) := by
  apply reports_printTable
  · simp only [transactionSummary, List.forall_mem_cons]
    exact ⟨plain_word _, plain_word _, .text _, plain_word _, .text _, plain_word _, nofun⟩
  · simp [transactionSummary]

theorem reports_address {a : AnyAddress} {n : Bitcoin.Network} {es : Entries}
    (h : a.summary n = .ok es) : Reports (printTable es) es := by
  cases a with
  | native a =>
    cases h
    apply reports_printTable <;> simp [Json.Plain.text]
  | nostr a =>
    obtain ⟨b, -, said⟩ := bind_eq_ok.mp h
    cases said
    apply reports_printTable <;> simp [Json.Plain.text]
  | bitcoin a =>
    cases h
    apply reports_printTable <;> simp [Json.Plain.text]

theorem newKey_facts (k : Keypair) (n : Bitcoin.Network) :
    (∀ e ∈ newKeySummary k n, Json.Plain e.2) ∧ ((newKeySummary k n).map Prod.fst).Nodup := by
  cases k with
  | ed25519 seed =>
    simp [newKeySummary, keySummary, foreignAddresses, Keypair.secretNumber?, Json.Plain.text]
  | secp256k1 secret =>
    simp [newKeySummary, keySummary, foreignAddresses, Keypair.secretNumber?, Json.Plain.text]

theorem reports_newKey (k : Keypair) (n : Bitcoin.Network) :
    Reports (printTable (newKeySummary k n)) (newKeySummary k n) :=
  reports_printTable (newKey_facts k n).1 (newKey_facts k n).2

/-- The summary of a key is that of a new key without the secret. -/
theorem reports_key (k : Keypair) (n : Bitcoin.Network) :
    Reports (printTable (keySummary k n)) (keySummary k n) := by
  obtain ⟨plain, once⟩ := newKey_facts k n
  rw [newKeySummary, List.forall_mem_append] at plain
  rw [newKeySummary, List.map_append] at once
  exact reports_printTable plain.1 (List.nodup_append.mp once).1

/-! ## Commands -/

/-- The description of an address is that of what its text is taken for. -/
theorem describeAddress_eq_ok {s : Settings} {text report : String} :
    describeAddress s text = .ok report ↔
      ∃ a es, AnyAddress.parse text s.bitcoinNetwork = .ok a ∧
        a.summary s.bitcoinNetwork = .ok es ∧ report = printTable es := by
  unfold describeAddress
  simp only [bind_eq_ok, Fault.lift_eq_ok]
  constructor
  · rintro ⟨a, parsed, es, said, printed⟩
    exact ⟨a, es, parsed, said, (Except.ok.inj printed).symm⟩
  · rintro ⟨a, es, parsed, said, rfl⟩
    exact ⟨a, parsed, es, said, rfl⟩

/-- Every command but the one that signs reports a table. -/
theorem exists_reports {w : Surroundings} {s : Settings} {r : Request} {text : String}
    (h : r.run w s = .ok text) (other : ∀ q, r ≠ .sign q) : ∃ es, Reports text es := by
  cases r with
  | generate scheme =>
    rcases scheme with _ | name
    · obtain rfl := Except.ok.inj h
      exact ⟨_, reports_newKey _ _⟩
    · obtain ⟨chosen, -, printed⟩ := bind_eq_ok.mp h
      obtain rfl := Except.ok.inj printed
      exact ⟨_, reports_newKey _ _⟩
  | inspectKey source =>
    unfold Request.run Command.inspectKey at h
    obtain ⟨k, -, printed⟩ := bind_eq_ok.mp h
    cases printed
    exact ⟨_, reports_key _ _⟩
  | address text =>
    obtain ⟨a, es, -, said, rfl⟩ := describeAddress_eq_ok.mp h
    exact ⟨es, reports_address said⟩
  | sign q => exact absurd rfl (other q)
  | verify text mode =>
    unfold Request.run Command.verify at h
    obtain ⟨t, -, h⟩ := bind_eq_ok.mp h
    obtain ⟨mode, -, h⟩ := bind_eq_ok.mp h
    obtain ⟨⟨⟩, -, h⟩ := bind_eq_ok.mp h
    obtain ⟨hash, -, printed⟩ := bind_eq_ok.mp h
    cases printed
    exact ⟨_, reports_transaction t hash⟩

end MoveWallet.Command
