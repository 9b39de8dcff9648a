import RandomBeacon.Proofs.Json.Held
import RandomBeacon.Proofs.Json.RoundTrip
import RandomBeacon.Wire.Message

/-!
Records and scalars read back. A record whose names differ gives each field the value that it was
written with (`namedFields?_record`); bytes and whole numbers are read as what was written.
-/

namespace RandomBeacon.Json

section Records

variable {members : List (String × Json)}

@[simp]
theorem isPlain_nat (n : Nat) : (nat n).isPlain = true := rfl

@[simp]
theorem isPlain_bool (b : Bool) : (bool b).isPlain = true := rfl

@[simp]
theorem isPlain_text (s : String) : (text s).isPlain = true := rfl

@[simp]
theorem isPlain_record : (record members).isPlain = members.all (·.2.isPlain) := by
  rw [record, isPlain]
  induction members with
  | nil => rfl
  | cons member members ih => rw [List.map_cons, membersPlain, ih]; rfl

@[simp]
theorem isPlain_byteArray (bytes : List UInt8) : (byteArray bytes).isPlain = true := by
  rw [byteArray, isPlain]
  induction bytes with
  | nil => rfl
  | cons b bytes ih => rw [List.map_cons, itemsPlain, ih]; rfl

@[simp]
theorem isHoldable_record : (record members).isHoldable = members.all (·.2.isHoldable) := by
  rw [record, isHoldable]
  induction members with
  | nil => rfl
  | cons member members ih => rw [List.map_cons, membersHoldable, ih]; rfl

theorem lookup_record (name : String) (members : List (String × Json)) :
    (members.map fun (name, value) => (some name, value)).lookup (some name) =
      members.lookup name := by
  induction members with
  | nil => rfl
  | cons member members ih =>
    have same : (some name == some member.1) = (name == member.1) := rfl
    rw [List.map_cons, List.lookup_cons, List.lookup_cons, same, ih]

/-- A record gives each named field the value that stands under the name. -/
theorem namedFields?_record (names : List String) (unique : (members.map (·.1)).Nodup) :
    (record members).namedFields? names = some (names.map fun name => members.lookup name) := by
  have named : (members.map fun (name, value) => (some name, value)).any (·.1.isNone) = false := by
    simp
  have once (name : String) : ((members.map fun (name, value) => (some name, value)).filter
      (·.1 = some name)).length ≤ 1 := by
    rw [← List.countP_eq_length_filter, List.countP_map]
    have count := List.nodup_iff_count.1 unique name
    rw [List.count, List.countP_map] at count
    exact (List.countP_congr fun member _ => by simp).trans_le count
  have none_twice : (names.any fun name =>
      1 < ((members.map fun (name, value) => (some name, value)).filter
        (·.1 = some name)).length) = false := by
    rw [List.any_eq_false]
    intro name _ twice
    exact absurd (once name) (Nat.not_le.2 (of_decide_eq_true twice))
  rw [record, namedFields?, if_neg (by rw [named]; decide), if_neg (by rw [none_twice]; decide)]
  simp only [lookup_record]

theorem fields?_record (names : List String) (unique : (members.map (·.1)).Nodup) :
    (record members).fields? names = some (names.map fun name => members.lookup name) :=
  namedFields?_record names unique

end Records

section Scalars

theorem natBelow?_nat {n limit : Nat} (below : n < limit) : (nat n).natBelow? limit = some n :=
  if_pos below

@[simp]
theorem uint8?_nat (b : UInt8) : (nat b.toNat).uint8? = some b := by
  rw [uint8?, natBelow?_nat b.toNat_lt, Option.map_some, UInt8.ofNat_toNat]

@[simp]
theorem uint64?_nat (n : UInt64) : (nat n.toNat).uint64? = some n := by
  rw [uint64?, natBelow?_nat n.toNat_lt, Option.map_some, UInt64.ofNat_toNat]

@[simp]
theorem bytes?_byteArray (bytes : List UInt8) : (byteArray bytes).bytes? = some bytes := by
  have read : (bytes.map fun b => nat b.toNat).mapM uint8? = some bytes := by
    induction bytes with
    | nil => rfl
    | cons b bytes ih => simp [List.mapM_cons, ih]
  exact read

@[simp]
theorem byteVector?_byteArray {n : Nat} (bytes : Vector UInt8 n) :
    (byteArray bytes.toList).byteVector? n = some bytes := by
  simp [byteVector?, Vector.toList]

@[simp]
theorem isHoldable_text (s : String) : (text s).isHoldable = true := rfl

@[simp]
theorem isHoldable_nat (n : UInt64) : (nat n.toNat).isHoldable = true :=
  integerNumber?_isSome n.toNat_lt

end Scalars

theorem hold?_eq {j : Json} (holdable : j.isHoldable = true) (shallow : j.depth ≤ nestingLimit) :
    hold? 0 j = some j := by
  rw [hold?, holdable, Nat.zero_add, decide_eq_true shallow, Bool.and_self, if_pos rfl]

end RandomBeacon.Json
