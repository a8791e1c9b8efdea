/-
# MoveWallet.Proofs.Bitcoin.Wrapped — wrapped bytes say what an address pays to

Wrapped bytes begin with a byte for the kind, so they determine the payee (`wrapped_injective`).  An
address is made of wrapped bytes exactly if they are those of a payee that is supported
(`ofWrapped_eq_ok`).
-/
import Mathlib.Logic.Function.Basic
import MoveWallet.Bitcoin.Address
import MoveWallet.Proofs.Wire.Answer

namespace MoveWallet.Bitcoin

set_option autoImplicit false

open MoveWallet.Bytes.Fixed

/-! ## Programs -/

/-- The program of a witness has a length that goes with a supported version. -/
def Payee.Supported : Payee → Prop
  | .pubkeyHash _ => True
  | .scriptHash _ => True
  | .witness version program =>
      version ≤ 1 ∧ (program.length = 32 ∨ version = 0 ∧ program.length = 20)

theorem checkProgram_eq_ok {version : UInt8} {program : List UInt8} {payee : Payee} :
    checkProgram version program = .ok payee ↔
      payee = .witness version program ∧ payee.Supported := by
  constructor
  · intro h
    unfold checkProgram at h
    split at h
    next => cases h
    next early =>
      split at h
      next length =>
        cases h
        refine ⟨rfl, UInt8.not_lt.mp early, ?_⟩
        simpa using length
      next => cases h
  · rintro ⟨rfl, early, length⟩
    have listed : (program.length = 32 || (version == 0 && program.length == 20)) = true := by
      simpa using length
    rw [checkProgram, if_neg (UInt8.not_lt.mpr early), if_pos listed]

/-! ## Wrapped bytes -/

theorem AddressKind.ofByte?_eq_some {b : UInt8} {kind : AddressKind} :
    AddressKind.ofByte? b = some kind ↔ b = kind.byte := by
  constructor
  · intro h
    unfold AddressKind.ofByte? at h
    split at h
    next zero => cases h; exact zero
    next =>
      split at h
      next one => cases h; exact one
      next =>
        split at h
        next two => cases h; exact two
        next => cases h
  · rintro rfl
    cases kind <;> rfl

theorem AddressKind.byte_injective : Function.Injective AddressKind.byte := by
  intro k l
  cases k <;> cases l <;> decide

/-- Payees with the same wrapped bytes are the same. -/
theorem Payee.wrapped_injective : Function.Injective Payee.wrapped := by
  intro p q same
  obtain ⟨bytes, rest⟩ := List.cons.inj same
  have kinds : p.kind = q.kind := AddressKind.byte_injective bytes
  cases p with
  | pubkeyHash hash =>
    cases q with
    | pubkeyHash other => exact congrArg _ (FixedBytes.ext rest)
    | scriptHash => cases kinds
    | witness => cases kinds
  | scriptHash hash =>
    cases q with
    | pubkeyHash => cases kinds
    | scriptHash other => exact congrArg _ (FixedBytes.ext rest)
    | witness => cases kinds
  | witness version program =>
    cases q with
    | pubkeyHash => cases kinds
    | scriptHash => cases kinds
    | witness version' program' =>
      obtain ⟨rfl, rfl⟩ := List.cons.inj rest
      rfl

namespace Address

theorem ofWitnessProgram_eq_ok {version : UInt8} {program : List UInt8} {n : Network}
    {a : Address} :
    ofWitnessProgram version program n = .ok a ↔
      (Payee.witness version program).Supported ∧ a = ofPayee n (.witness version program) := by
  rw [ofWitnessProgram, Wire.bind_eq_ok]
  constructor
  · rintro ⟨payee, checked, made⟩
    obtain ⟨rfl, supported⟩ := checkProgram_eq_ok.mp checked
    cases made
    exact ⟨supported, rfl⟩
  · rintro ⟨supported, rfl⟩
    exact ⟨_, checkProgram_eq_ok.mpr ⟨rfl, supported⟩, rfl⟩

/-- Wrapped bytes make an address exactly if they are those of a supported payee, and then it pays
to that payee. -/
theorem ofWrapped_eq_ok {bs : List UInt8} {n : Network} {a : Address} :
    ofWrapped bs n = .ok a ↔
      ∃ payee : Payee, payee.Supported ∧ bs = payee.wrapped ∧ a = ofPayee n payee := by
  constructor
  · intro h
    rcases bs with _ | ⟨b, rest⟩
    · cases h
    · rcases known : AddressKind.ofByte? b with _ | kind
      · simp [ofWrapped, known] at h
      · simp only [ofWrapped, known] at h
        rw [AddressKind.ofByte?_eq_some.mp known]
        cases kind with
        | pubkeyHash =>
          rcases fits : FixedBytes.ofList? 20 rest with _ | hash
          · simp [fits] at h
          · simp only [fits, Except.ok.injEq] at h
            rw [FixedBytes.ofList?_eq_some_iff.mp fits]
            exact ⟨.pubkeyHash hash, trivial, rfl, h.symm⟩
        | scriptHash =>
          rcases fits : FixedBytes.ofList? 20 rest with _ | hash
          · simp [fits] at h
          · simp only [fits, Except.ok.injEq] at h
            rw [FixedBytes.ofList?_eq_some_iff.mp fits]
            exact ⟨.scriptHash hash, trivial, rfl, h.symm⟩
        | witness =>
          rcases rest with _ | ⟨version, program⟩
          · cases h
          · obtain ⟨supported, rfl⟩ := ofWitnessProgram_eq_ok.mp h
            exact ⟨.witness version program, supported, rfl, rfl⟩
  · rintro ⟨payee, supported, rfl, rfl⟩
    cases payee with
    | pubkeyHash hash =>
      simp only [ofWrapped, Payee.wrapped, AddressKind.ofByte?_eq_some.mpr rfl, Payee.kind,
        Payee.version?, Payee.payload, Option.toList_none, List.nil_append,
        FixedBytes.ofList?_toList]
    | scriptHash hash =>
      simp only [ofWrapped, Payee.wrapped, AddressKind.ofByte?_eq_some.mpr rfl, Payee.kind,
        Payee.version?, Payee.payload, Option.toList_none, List.nil_append,
        FixedBytes.ofList?_toList]
    | witness version program => exact ofWitnessProgram_eq_ok.mpr ⟨supported, rfl⟩

end Address

end MoveWallet.Bitcoin
