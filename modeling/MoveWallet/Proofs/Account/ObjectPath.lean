/-
# MoveWallet.Proofs.Account.ObjectPath — navigation keeps the root of a path and its digests

Steps to a child, to the parent and to the root may come in any order.  A child appends an address,
and the other steps cut a path to a beginning of it that has at least one address.  With each address
goes a record of where it comes from (`origins`): the start, or a child step for a key.  What holds of
an address there speaks only of the addresses before it, so appending and cutting keep it
(`Grown.child`, `Grown.cut`), and every walk does (`grown_walk`).  `hashPath_and_forms` joins this
with the forms in which object ids are written.
-/
import MoveWallet.Proofs.Account.ObjectForms
import MoveWallet.Proofs.Account.Wire

namespace MoveWallet.Account.ObjectId

set_option autoImplicit false

open MoveWallet.Digest
open MoveWallet.Text

variable {start id id' : ObjectId} {marks : List (Option (List UInt8))}

/-! ## Parents and roots -/

theorem eq_of_path_eq (h : id.path = id'.path) : id = id' := by
  cases id
  cases id'
  cases h
  rfl

theorem ofPath?_eq_some_iff {path : List Address} : ofPath? path = some id ↔ id.path = path := by
  constructor
  · exact path_of_ofPath?
  · rintro rfl
    exact dif_pos id.path_ne_nil

theorem isRoot_iff : id.isRoot = true ↔ id.path.length = 1 := beq_iff_eq

/-- An id has no parent exactly if it is a root. -/
theorem parent?_eq_none_iff : id.parent? = none ↔ id.isRoot = true := by
  have positive : 0 < id.path.length := List.length_pos_iff.mpr id.path_ne_nil
  have alone : id.path.dropLast = [] ↔ id.path.length = 1 := by
    rw [← List.length_eq_zero_iff, List.length_dropLast]
    omega
  rw [isRoot_iff, ← alone, parent?, ofPath?]
  by_cases none : id.path.dropLast = []
  · simp [none]
  · simp [none]

theorem parent?_child (id : ObjectId) (key : List UInt8) : (id.child key).parent? = some id :=
  ofPath?_eq_some_iff.mpr List.dropLast_concat.symm

/-- The root is the first address of the path. -/
theorem root_eq_of_head? (h : id.path.head? = id'.path.head?) : id.root = id'.root := by
  rw [List.head?_eq_some_head id.path_ne_nil, List.head?_eq_some_head id'.path_ne_nil] at h
  rw [root, root, Option.some.inj h]

/-- Children with one path are of one parent, and for one key unless two messages have one digest. -/
theorem eq_of_child_eq {key key' : List UInt8} (h : id.child key = id'.child key') :
    id = id' ∧ Sha3.sha3 (id.toBytes ++ key) = Sha3.sha3 (id'.toBytes ++ key') := by
  have paths : id.path ++ [Address.ofSha3 (id.toBytes ++ key)] =
      id'.path ++ [Address.ofSha3 (id'.toBytes ++ key')] := congrArg ObjectId.path h
  obtain ⟨fronts, lasts⟩ := List.append_inj' paths rfl
  have digests := congrArg (fun a : Address => a.bytes.toList) (List.cons.inj lasts).1
  exact ⟨eq_of_path_eq fronts, digests⟩

/-! ## Walks -/

/-- A step from an object id to another. -/
inductive Step where
  | child (key : List UInt8)
  | parent
  | root
  deriving DecidableEq

/-- The id after a step.  A root stays where it is when its parent is asked for. -/
def Step.apply (t : Step) (id : ObjectId) : ObjectId :=
  match t with
  | child key => id.child key
  | parent => id.parent?.getD id
  | root => id.root

/-- The id after steps. -/
def walk (id : ObjectId) (steps : List Step) : ObjectId := steps.foldl (fun id t => t.apply id) id

/-- What a step does to the record of a path: a child's address is marked with the key. -/
def Step.track (t : Step) (marks : List (Option (List UInt8))) : List (Option (List UInt8)) :=
  match t with
  | child key => marks ++ [some key]
  | parent => if marks.length = 1 then marks else marks.dropLast
  | root => marks.take 1

/-- For each address of the path after steps, the key that it was appended for, or none if it comes
from the start. -/
def origins (start : ObjectId) (steps : List Step) : List (Option (List UInt8)) :=
  steps.foldl (fun marks t => t.track marks) (start.path.map fun _ => none)

/-- What marks say of a path that goes back to `start`.  The first address is that of the start, an
address without a key stands where it stood in the start, and one with a key is the digest of all
addresses before it and the key. -/
structure Grown (start id : ObjectId) (marks : List (Option (List UInt8))) : Prop where
  size : marks.length = id.path.length
  first : id.path.head? = start.path.head?
  given : ∀ i : Nat, marks[i]? = some none → id.path[i]? = start.path[i]?
  derived : ∀ (i : Nat) (key : List UInt8), marks[i]? = some (some key) →
    id.path[i]? = some (.ofSha3 (pathBytes (id.path.take i) ++ key))

theorem grown_start (start : ObjectId) : Grown start start (start.path.map fun _ => none) where
  size := List.length_map _
  first := rfl
  given _ _ := rfl
  derived i key marked := by
    rw [List.getElem?_map] at marked
    cases known : start.path[i]? with
    | none => simp [known] at marked
    | some a => simp [known] at marked

/-- A beginning of the path keeps what its marks say. -/
theorem Grown.cut {n : Nat} (h : Grown start id marks) (positive : 0 < n)
    (cut : id'.path = id.path.take n) : Grown start id' (marks.take n) where
  size := by rw [cut, List.length_take, List.length_take, h.size]
  first := by
    rw [cut, List.head?_take, if_neg (Nat.ne_of_gt positive)]
    exact h.first
  given i marked := by
    rw [List.getElem?_take] at marked
    split_ifs at marked with inside
    rw [cut, List.getElem?_take, if_pos inside]
    exact h.given i marked
  derived i key marked := by
    rw [List.getElem?_take] at marked
    split_ifs at marked with inside
    rw [cut, List.getElem?_take, if_pos inside, List.take_take, Nat.min_eq_left (Nat.le_of_lt inside)]
    exact h.derived i key marked

/-- So does the path with one more address, which is the digest that its mark says. -/
theorem Grown.child (h : Grown start id marks) (key : List UInt8) :
    Grown start (id.child key) (marks ++ [some key]) := by
  have path : (id.child key).path = id.path ++ [.ofSha3 (pathBytes id.path ++ key)] := rfl
  have place : ∀ {i : Nat} {mark : Option (List UInt8)}, (marks ++ [some key])[i]? = some mark →
      i < id.path.length ∧ marks[i]? = some mark ∨ i = id.path.length ∧ mark = some key := by
    intro i mark marked
    rw [List.getElem?_append, h.size] at marked
    split_ifs at marked with inside
    · exact .inl ⟨inside, marked⟩
    · have last : i - id.path.length = 0 := by
        by_contra beyond
        obtain ⟨k, next⟩ := Nat.exists_eq_succ_of_ne_zero beyond
        simp [next] at marked
      rw [last] at marked
      exact .inr ⟨by omega, (Option.some.inj marked).symm⟩
  refine ⟨?_, ?_, ?_, ?_⟩
  · rw [path, List.length_append, List.length_append, h.size]
    rfl
  · rw [path, List.head?_append_of_ne_nil _ id.path_ne_nil, h.first]
  · intro i marked
    rcases place marked with ⟨inside, before⟩ | ⟨-, other⟩
    · rw [path, List.getElem?_append_left inside, h.given i before]
    · cases other
  · intro i key' marked
    rcases place marked with ⟨inside, before⟩ | ⟨rfl, same⟩
    · rw [path, List.getElem?_append_left inside, List.take_append_of_le_length (Nat.le_of_lt inside),
        h.derived i key' before]
    · cases same
      rw [path, List.getElem?_concat_length, List.take_left]

/-- A step up leaves the beginning of a path without its last address, or the path of a root. -/
theorem path_parent (id : ObjectId) :
    (Step.parent.apply id).path = id.path.take (max 1 (id.path.length - 1)) := by
  have positive : 0 < id.path.length := List.length_pos_iff.mpr id.path_ne_nil
  cases found : id.parent? with
  | none =>
    have alone := isRoot_iff.mp (parent?_eq_none_iff.mp found)
    rw [Step.apply, found, Option.getD_none, List.take_of_length_le (by omega)]
  | some up =>
    have path := path_of_ofPath? found
    have more : 0 < up.path.length := List.length_pos_iff.mpr up.path_ne_nil
    rw [path, List.length_dropLast] at more
    rw [Step.apply, found, Option.getD_some, path, List.dropLast_eq_take, Nat.max_eq_right more]

/-- Every step keeps what the marks say, if it is recorded. -/
theorem Grown.step (h : Grown start id marks) (t : Step) :
    Grown start (t.apply id) (t.track marks) := by
  cases t with
  | child key => exact h.child key
  | parent =>
    have positive : 0 < id.path.length := List.length_pos_iff.mpr id.path_ne_nil
    have track : Step.parent.track marks = marks.take (max 1 (id.path.length - 1)) := by
      rw [Step.track, h.size]
      split_ifs with alone
      · rw [List.take_of_length_le]
        rw [h.size]
        omega
      · rw [List.dropLast_eq_take, h.size, Nat.max_eq_right (by omega)]
    rw [track]
    exact h.cut (by omega) (path_parent id)
  | root =>
    refine h.cut Nat.one_pos ?_
    obtain ⟨a, rest, path⟩ := List.exists_cons_of_ne_nil id.path_ne_nil
    simp [Step.apply, root, ofAddress, path]

theorem Grown.walk (h : Grown start id marks) (steps : List Step) :
    Grown start (id.walk steps) (steps.foldl (fun marks t => t.track marks) marks) := by
  induction steps generalizing id marks with
  | nil => exact h
  | cons t steps ih => exact ih (h.step t)

/-- Whatever steps are taken, the marks say where the addresses of the path come from. -/
theorem grown_walk (start : ObjectId) (steps : List Step) :
    Grown start (start.walk steps) (origins start steps) := (grown_start start).walk steps

/-! ## Written forms -/

/-- A path that is short enough for its number of addresses to be written is read back. -/
theorem decodeExact_encode_of_short (short : id.path.length < 2 ^ 32) :
    ∃ bs, codec.encode id = .ok bs ∧ codec.decodeExact bs = .ok id := by
  obtain ⟨bs, written⟩ := writes_objectId.mpr short
  exact ⟨bs, written, faithful_objectId.decodeExact written rfl⟩

/-- Whatever steps are taken from an object id, its path has the first address that it had, and its
addresses are those of the start or digests of all that come before them and a key.  A root is what
has no parent, and the parent of a child is what it is the child of; the root of a root is itself.
Children are the same only if their parents are and their keys, or else two messages have one digest.
An object id is read back from its text, its bytes, and, if its addresses can be counted, from the
wire; text is read exactly if it is digits, 64 for each of at least one address. -/
theorem hashPath_and_forms :
    (∀ (start : ObjectId) (steps : List Step),
      Grown start (start.walk steps) (origins start steps) ∧
        (start.walk steps).path ≠ [] ∧ (start.walk steps).root = start.root) ∧
    (∀ id : ObjectId, (id.isRoot = true ↔ id.parent? = none) ∧ id.root.root = id.root ∧
      ∀ key, (id.child key).parent? = some id) ∧
    (∀ (id id' : ObjectId) (key key' : List UInt8), id.child key = id'.child key' →
      id = id' ∧ (key = key' ∨ id.toBytes ++ key ≠ id'.toBytes ++ key' ∧
        Sha3.sha3 (id.toBytes ++ key) = Sha3.sha3 (id'.toBytes ++ key'))) ∧
    (∀ id : ObjectId, parse id.toText = .ok id ∧ ofBytes id.toBytes = .ok id ∧
      (id.path.length < 2 ^ 32 →
        ∃ bs, codec.encode id = .ok bs ∧ codec.decodeExact bs = .ok id)) ∧
    (∀ text : String, (∃ id, parse text = .ok id) ↔
      ∃ ds, (text.toList = ds ∨ text.toList = '0' :: 'x' :: ds) ∧ ds.all Hex.isDigit = true ∧
        ∃ count, 1 ≤ count ∧ ds.length = 64 * count) := by
  refine ⟨?_, ?_, ?_, ?_, ?_⟩
  · intro start steps
    have grown := grown_walk start steps
    exact ⟨grown, (start.walk steps).path_ne_nil, root_eq_of_head? grown.first⟩
  · intro id
    exact ⟨parent?_eq_none_iff.symm, rfl, parent?_child id⟩
  · intro id id' key key' same
    obtain ⟨rfl, digests⟩ := eq_of_child_eq same
    refine ⟨rfl, ?_⟩
    by_cases keys : key = key'
    · exact .inl keys
    · exact .inr ⟨fun messages => keys (List.append_cancel_left messages), digests⟩
  · intro id
    exact ⟨parse_toText id, ofBytes_toBytes id, decodeExact_encode_of_short⟩
  · intro text
    exact exists_parse_iff

/-- Down two, up one and down again: the third address is the digest of the first two and the last
key, and belongs to no key that was given up. -/
theorem hashPath_and_forms_of_zero :
    let id := (ofAddress .zero).walk [.child [1], .child [2], .parent, .child [3]]
    id.path[2]? = some (.ofSha3 (pathBytes (id.path.take 2) ++ [3])) ∧
    id.path[0]? = some .zero ∧ id.root = ofAddress .zero ∧
    (∃ bs, codec.encode (ofAddress .zero) = .ok bs ∧ codec.decodeExact bs = .ok (ofAddress .zero)) ∧
    (ofAddress .zero).child [7] ≠ (ofAddress (.ofNat 1)).child [7] := by
  obtain ⟨walks, -, children, forms, -⟩ := hashPath_and_forms
  obtain ⟨grown, -, root⟩ := walks (ofAddress .zero) [.child [1], .child [2], .parent, .child [3]]
  refine ⟨grown.derived 2 [3] rfl, grown.given 0 rfl, root, ?_, ?_⟩
  · exact (forms (ofAddress .zero)).2.2 (by decide)
  · intro same
    exact absurd (children _ _ _ _ same).1 (by decide)

end MoveWallet.Account.ObjectId
