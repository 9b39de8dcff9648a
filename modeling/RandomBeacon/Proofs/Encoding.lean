import RandomBeacon.Round

/-!
Rounds as text. Hexadecimal text is read back as the bytes that it was written for, however many
they are (`Hex.decode?_encode`), so no two rounds have the same result (`Round.result_injective`).
-/

namespace RandomBeacon

namespace Hex

theorem value?_digit {n : Nat} (below : n < 16) : value? (digit n) = some n := by
  have all : ∀ k : Fin 16, value? (digit k) = some k.val := by decide
  exact all ⟨n, below⟩

/-- A byte takes two digits, and they tell it. -/
theorem decode?_encodeByte (b : UInt8) (rest : List Char) :
    decode? (encodeByte b ++ rest) = (decode? rest).map (b :: ·) := by
  have below : b.toNat < 256 := b.toNat_lt
  have high : value? (digit (b.toNat / 16)) = some (b.toNat / 16) := value?_digit (by omega)
  have low : value? (digit (b.toNat % 16)) = some (b.toNat % 16) := value?_digit (by omega)
  have whole : UInt8.ofNat (16 * (b.toNat / 16) + b.toNat % 16) = b := by
    rw [Nat.div_add_mod, UInt8.ofNat_toNat]
  simp only [encodeByte, List.cons_append, List.nil_append, decode?, high, low, Option.bind_some,
    whole, bind, pure]
  cases decode? rest <;> rfl

theorem decode?_encode (bytes : List UInt8) : decode? (encode bytes) = some bytes := by
  induction bytes with
  | nil => rfl
  | cons b rest ih =>
    have split : encode (b :: rest) = encodeByte b ++ encode rest := rfl
    rw [split, decode?_encodeByte, ih]
    rfl

end Hex

/-- The bytes that a text of `prefixedHex` tells. -/
def bytes? (text : String) : Option (List UInt8) :=
  match text.toList with
  | '0' :: 'x' :: digits => Hex.decode? digits
  | _ => none

theorem bytes?_prefixedHex (bytes : List UInt8) : bytes? (prefixedHex bytes) = some bytes := by
  have text : (prefixedHex bytes).toList = '0' :: 'x' :: Hex.encode bytes := String.toList_ofList
  simp only [bytes?, text]
  exact Hex.decode?_encode bytes

theorem prefixedHex_injective {bytes others : List UInt8}
    (same : prefixedHex bytes = prefixedHex others) : bytes = others := by
  apply Option.some.inj
  rw [← bytes?_prefixedHex bytes, ← bytes?_prefixedHex others, same]

/-- A result tells the round. -/
theorem Round.result_injective {r q : Round} (same : r.result = q.result) : r = q := by
  obtain ⟨number, value, nonce, attestation⟩ := r
  obtain ⟨number', value', nonce', attestation'⟩ := q
  simp only [Round.result, Randomness.mk.injEq] at same
  obtain ⟨numbers, values, nonces, attestations⟩ := same
  rw [numbers, Vector.toList_inj.mp (prefixedHex_injective values),
    Vector.toList_inj.mp (prefixedHex_injective nonces), prefixedHex_injective attestations]

end RandomBeacon
