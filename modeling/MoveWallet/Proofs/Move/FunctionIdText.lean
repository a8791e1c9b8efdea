/-
# MoveWallet.Proofs.Move.FunctionIdText — the texts that name modules and functions

A function is named by an address and two names with pairs of colons between them.  The text is cut
at the last pair, and what stands before it is read as a module, which cuts at the first pair; no
address and no name has a colon (`not_mem_of_parse`), so the pairs that are found are the ones meant.

The reader of modules trims its text once more, so blanks are accepted between the name of the module
and the last pair of colons, though no name may hold a blank and the path of a struct, which has the
same parts, may not have blanks there.  `parse_eq_ok_iff` and `parse_bare_iff` state the two grammars
side by side.
-/
import MoveWallet.Proofs.Account.AddressForms
import MoveWallet.Proofs.Move.StructTagText
import MoveWallet.Proofs.Move.TypeTagForms

namespace MoveWallet.Move

set_option autoImplicit false

open MoveWallet.Account
open MoveWallet.Text
open MoveWallet.Text.Blank
open MoveWallet.Text.Separator
open MoveWallet.Wire

/-! ## Addresses -/

theorem isFollowing_of_isDigit {c : Char} (digit : Hex.isDigit c = true) : isFollowing c = true := by
  have table : ∀ c : Char, c.toNat < 0x80 → Hex.isDigit c = true → isFollowing c = true :=
    Utf8.forall_ascii (by decide +kernel)
  exact table c (Hex.toNat_lt_of_isDigit digit) digit

theorem isFollowing_of_lower {c : Char} (h : isFollowing (Bech32.lower c) = true) :
    isFollowing c = true := by
  rcases Bech32.lower_cases c with ⟨-, same⟩ | ⟨least, most, -⟩
  · rwa [same] at h
  · have capital : Bech32.isUpper c = true := Bech32.isUpper_iff.mpr ⟨least, most⟩
    unfold Bech32.isUpper at capital
    rw [isFollowing, isStart, capital]
    simp

/-- A text that is read as an address holds nothing but blanks and what a name may hold. -/
theorem isFollowing_of_parse {text : String} {a : Address} (h : Address.parse text = .ok a)
    {c : Char} (member : c ∈ text.toList) (solid : isBlank c = false) : isFollowing c = true := by
  have inside : c ∈ (Address.trimmed text).toList := by
    rw [Address.trimmed, String.toList_ofList]
    exact mem_trim member solid
  rcases Address.parse_eq_ok_iff.mp h with hex | bech32
  · obtain ⟨marker, known, ds, whole, numeral⟩ := Address.ofHexLiteral_eq_ok_iff.mp hex
    have markers : Address.markers.all (·.all isFollowing) = true := by decide
    rw [whole, List.mem_append] at inside
    rcases inside with among | among
    · exact List.all_eq_true.mp (List.all_eq_true.mp markers marker known) c among
    · exact isFollowing_of_isDigit (List.all_eq_true.mp numeral.digits c among)
  · obtain ⟨-, pad, -, spelled⟩ := Address.ofBech32_eq_ok_iff.mp bech32
    have characters := congrArg String.toList spelled
    rw [Bech32.spell, Bech32.write, String.toList_ofList, Bech32.toList_toLower] at characters
    have lowered := List.mem_map_of_mem (f := Bech32.lower) inside
    have front : Address.hrp.toList.all isFollowing = true := by decide
    have groups : ∀ g, isFollowing (Bech32.groupChar g) = true := by decide
    rw [← characters, List.mem_append, List.mem_cons] at lowered
    apply isFollowing_of_lower
    rcases lowered with among | same | among
    · exact List.all_eq_true.mp front _ among
    · rw [same]
      decide
    · obtain ⟨g, -, same⟩ := List.mem_map.mp among
      rw [← same]
      exact groups g

theorem not_mem_of_parse {cs : List Char} {a : Address}
    (h : Address.parse (String.ofList cs) = .ok a) {c : Char} (solid : isBlank c = false)
    (other : isFollowing c = false) : c ∉ cs := by
  intro member
  rw [isFollowing_of_parse h (by rwa [String.toList_ofList]) solid] at other
  cases other

/-- The first pair of colons behind an address is the one that ends it. -/
theorem splitFirst?_address {cs : List Char} {a : Address}
    (h : Address.parse (String.ofList cs) = .ok a) (rest : List Char) :
    splitFirst? "::".toList (cs ++ "::".toList ++ rest) = some (cs, rest) :=
  splitFirst?_append rest (not_mem_of_parse h (by decide) (by decide))

theorem parseAddress_eq_ok_iff {text : String} {a : Address} :
    parseAddress text = .ok a ↔ Address.parse text = .ok a := by
  rw [parseAddress]
  rcases Address.parse text with e | b
  · simp
  · simp

/-! ## Modules -/

/-- A text names a module if it is, without the blanks round it, the text of the address, a pair of
colons and the name. -/
theorem ModuleId.parse_eq_ok_iff {text : String} {i : ModuleId} :
    ModuleId.parse text = .ok i ↔ ∃ a, Address.parse (String.ofList a) = .ok i.address ∧
      trim text.toList = a ++ "::".toList ++ i.name.text.toList := by
  constructor
  · intro h
    unfold ModuleId.parse at h
    split at h
    · cases h
    · rename_i a n cut
      obtain ⟨address, readAddress, rest⟩ := bind_eq_ok.mp h
      obtain ⟨name, readName, made⟩ := bind_eq_ok.mp rest
      cases made
      refine ⟨a, parseAddress_eq_ok_iff.mp readAddress, ?_⟩
      rw [append_of_splitFirst? cut, text_of_parse readName]
  · rintro ⟨a, read, whole⟩
    have cut : splitFirst? "::".toList (trim text.toList) = some (a, i.name.text.toList) := by
      rw [whole]
      exact splitFirst?_address read _
    simp only [ModuleId.parse, cut, parseAddress_eq_ok_iff.mpr read, parse_text, ok_bind, pure_eq_ok]

/-- Where a text does not begin with a blank, blanks behind the name are all that is taken off. -/
theorem ModuleId.parse_front_iff {cs : List Char} {i : ModuleId}
    (first : ∃ c, cs.head? = some c ∧ isBlank c = false) :
    ModuleId.parse (String.ofList cs) = .ok i ↔ ∃ blanks, isBlankText blanks = true ∧
      ∃ a, Address.parse (String.ofList a) = .ok i.address ∧
        cs = a ++ "::".toList ++ i.name.text.toList ++ blanks := by
  rw [ModuleId.parse_eq_ok_iff, String.toList_ofList]
  constructor
  · rintro ⟨a, read, trimmed⟩
    obtain ⟨blanks, ended, blank⟩ := exists_eq_trim_append first
    rw [trimmed] at ended
    exact ⟨blanks, blank, a, read, ended⟩
  · rintro ⟨blanks, blank, a, read, rfl⟩
    refine ⟨a, read, ?_⟩
    have word := isWord_text i.name
    have begins := exists_head?_of_append (by simp) first
    have tight : Tight (a ++ "::".toList ++ i.name.text.toList) :=
      ⟨begins, exists_getLast?_append _ word.nonempty fun c => word.isBlank_of_mem⟩
    have none : isBlankText [] = true := rfl
    exact trim_around tight none blank

/-! ## Functions -/

/-- The characters are the text of the address and the two names with pairs of colons between them,
and some blanks before the second pair. -/
def QualifiedName (s blanks : List Char) (address : Address) (module name : Identifier) : Prop :=
  ∃ a, Address.parse (String.ofList a) = .ok address ∧
    s = a ++ "::".toList ++ (module.text.toList ++ blanks ++ "::".toList ++ name.text.toList)

/-- A text has the parts of a qualified name in one way. -/
theorem QualifiedName.blanks_unique {s blanks blanks' : List Char} {address address' : Address}
    {module name : Identifier} (h : QualifiedName s blanks address module name)
    (h' : QualifiedName s blanks' address' module name) : blanks = blanks' := by
  obtain ⟨a, read, whole⟩ := h
  obtain ⟨a', read', whole'⟩ := h'
  have cut := splitFirst?_address read
    (module.text.toList ++ blanks ++ "::".toList ++ name.text.toList)
  have cut' := splitFirst?_address read'
    (module.text.toList ++ blanks' ++ "::".toList ++ name.text.toList)
  rw [← whole] at cut
  rw [← whole', cut] at cut'
  simpa using (Prod.mk.inj (Option.some.inj cut')).2

theorem splitLast?_colons (s : List Char) (name : Identifier) :
    splitLast? "::".toList (s ++ "::".toList ++ name.text.toList) = some (s, name.text.toList) := by
  have colons : "::".toList = [':'] ++ [':'] := rfl
  rw [colons]
  exact splitLast?_append s ((isWord_text name).not_mem (by decide))

/-- What stands before the last pair of colons is read as a module, and has a pair itself. -/
theorem FunctionId.parse_iff_module {text : String} {f : FunctionId} :
    FunctionId.parse text = .ok f ↔ ∃ cs, trim text.toList = cs ++ "::".toList ++ f.name.text.toList ∧
      contains "::".toList cs = true ∧ ModuleId.parse (String.ofList cs) = .ok f.moduleId := by
  constructor
  · intro h
    unfold FunctionId.parse at h
    split at h
    · cases h
    · rename_i cs n cut
      split at h
      · rename_i colons
        obtain ⟨moduleId, readModule, rest⟩ := bind_eq_ok.mp h
        obtain ⟨name, readName, made⟩ := bind_eq_ok.mp rest
        cases made
        refine ⟨cs, ?_, colons, readModule⟩
        rw [append_of_splitLast? cut, text_of_parse readName]
      · cases h
  · rintro ⟨cs, whole, colons, read⟩
    have cut := splitLast?_colons cs f.name
    rw [← whole] at cut
    simp only [FunctionId.parse, cut, colons, read, parse_text, ok_bind, pure_eq_ok, if_true]

/-- A text names a function if it is, without the blanks round it, a qualified name with any blanks
before the second pair of colons. -/
theorem FunctionId.parse_eq_ok_iff {text : String} {f : FunctionId} :
    FunctionId.parse text = .ok f ↔ ∃ blanks, isBlankText blanks = true ∧
      QualifiedName (trim text.toList) blanks f.moduleId.address f.moduleId.name f.name := by
  rw [parse_iff_module]
  constructor
  · rintro ⟨cs, whole, colons, readModule⟩
    have some : cs ≠ [] := by
      rintro rfl
      cases colons
    rw [List.append_assoc] at whole
    obtain ⟨blanks, blank, a, read, rfl⟩ :=
      (ModuleId.parse_front_iff (exists_head?_of_trim some whole)).mp readModule
    refine ⟨blanks, blank, a, read, ?_⟩
    simp only [whole, List.append_assoc]
  · rintro ⟨blanks, blank, a, read, whole⟩
    have place : trim text.toList = a ++ "::".toList ++ f.moduleId.name.text.toList ++ blanks ++
        ("::".toList ++ f.name.text.toList) := by
      simp only [whole, List.append_assoc]
    have first := exists_head?_of_trim (by simp) place
    refine ⟨_, place.trans (List.append_assoc _ _ _).symm, ?_,
      (ModuleId.parse_front_iff first).mpr ⟨blanks, blank, a, read, rfl⟩⟩
    rw [List.append_assoc]
    exact contains_append _ _

/-! ## Struct types -/

/-- A text names a struct type without parameters if it is, without the blanks round it, a qualified
name with no blanks before the second pair of colons. -/
theorem StructTag.parse_bare_iff {text : String} {address : Address} {module name : Identifier} :
    StructTag.parse text = .ok ⟨address, module, name, []⟩ ↔
      QualifiedName (trim text.toList) [] address module name := by
  rw [StructTag.parse_eq]
  constructor
  · intro h
    rcases parts_of_parseStructWith h with bare | ⟨path, inner, parts, -, entries, read, -⟩
    · obtain ⟨-, a, m, n, cut, readAddress, readModule, readName⟩ := parts_of_parsePath bare
      rw [trim_trim] at cut
      refine ⟨a, parseAddress_eq_ok_iff.mp readAddress, ?_⟩
      rw [append_of_splitPath? cut, text_of_parse readModule, text_of_parse readName, List.append_nil]
    · -- a list in brackets has an entry
      obtain ⟨u, us, rfl, -⟩ := joinTo_of_splitParams? entries
      have count := length_of_mapM read
      cases count
  · rintro ⟨a, read, whole⟩
    rw [List.append_nil] at whole
    have angle : isFollowing '<' = false := by decide
    have absent : '<' ∉ trim text.toList := by
      have colons : '<' ∉ "::".toList := by decide
      simp only [whole, List.mem_append, not_or]
      exact ⟨⟨not_mem_of_parse read (by decide) angle, colons⟩,
        ⟨(isWord_text module).not_mem angle, colons⟩, (isWord_text name).not_mem angle⟩
    have cut : splitPath? (trim (trim text.toList)) =
        some (a, module.text.toList, name.text.toList) := by
      rw [trim_trim, whole]
      exact splitPath?_append (not_mem_of_parse read (by decide) (by decide)) module name
    simp only [parseStructWith, splitFirst?_eq_none absent, parsePath, cut,
      parseAddress_eq_ok_iff.mpr read, parse_text, ok_bind, pure_eq_ok]

/-! ## The texts of functions -/

namespace FunctionId

/-- A function is read from the text that it is displayed as. -/
theorem parse_toText (f : FunctionId) : FunctionId.parse f.toText = .ok f := by
  have text : f.toText.toList = renderPath .short f.moduleId.address f.moduleId.name f.name := by
    simp only [toText, ModuleId.toText, String.toList_append, renderPath, AddressForm.write]
  rw [parse_eq_ok_iff]
  refine ⟨[], rfl, f.moduleId.address.toHex.toList, ?_, ?_⟩
  · rw [String.ofList_toList]
    exact Address.parse_toHex f.moduleId.address
  · rw [text, trim_of_tight (tight_renderPath _ _ _), renderPath_eq, List.append_nil]
    rfl

/-- A text is read as a function if it is a qualified name, with any blanks before the second pair of
colons.  With none there, and only then, it is read as the struct type of the same parts, so the
readers differ exactly on texts that have such blanks.  Every function is read from its own text. -/
theorem function_texts (text : String) (f : FunctionId) :
    (FunctionId.parse text = .ok f ↔ ∃ blanks, isBlankText blanks = true ∧
      QualifiedName (trim text.toList) blanks f.moduleId.address f.moduleId.name f.name) ∧
    (StructTag.parse text = .ok ⟨f.moduleId.address, f.moduleId.name, f.name, []⟩ ↔
      QualifiedName (trim text.toList) [] f.moduleId.address f.moduleId.name f.name) ∧
    (FunctionId.parse text = .ok f ∧
        StructTag.parse text ≠ .ok ⟨f.moduleId.address, f.moduleId.name, f.name, []⟩ ↔
      ∃ blanks ≠ [], isBlankText blanks = true ∧
        QualifiedName (trim text.toList) blanks f.moduleId.address f.moduleId.name f.name) ∧
    FunctionId.parse f.toText = .ok f := by
  refine ⟨parse_eq_ok_iff, StructTag.parse_bare_iff, ?_, parse_toText f⟩
  rw [parse_eq_ok_iff, ne_eq, StructTag.parse_bare_iff]
  constructor
  · rintro ⟨⟨blanks, blank, name⟩, other⟩
    refine ⟨blanks, ?_, blank, name⟩
    rintro rfl
    exact other name
  · rintro ⟨blanks, some, blank, name⟩
    exact ⟨⟨blanks, blank, name⟩, fun bare => some (name.blanks_unique bare)⟩

/-- `0x3::a ::b` names a function, though there is a blank in it, and no struct type. -/
theorem function_text_with_blank :
    ∃ f, FunctionId.parse "0x3::a ::b" = .ok f ∧
      ¬ QualifiedName (trim "0x3::a ::b".toList) [] f.moduleId.address f.moduleId.name f.name ∧
      StructTag.parse "0x3::a ::b" = .error (.badIdentifier "a ") := by
  have refused : StructTag.parse "0x3::a ::b" = .error (.badIdentifier "a ") := by decide +kernel
  refine ⟨⟨⟨.ofNat 3, ⟨"a", by decide⟩⟩, ⟨"b", by decide⟩⟩, by decide +kernel, ?_, refused⟩
  rw [← StructTag.parse_bare_iff, refused]
  exact nofun

end FunctionId

end MoveWallet.Move
