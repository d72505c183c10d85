import Mathlib

/-! Big-endian byte encodings of fixed-width words, unsigned and two's complement. -/

namespace WordBytes

/-- The `count` big-endian bytes of a word; higher bits are dropped. -/
def toBytes : Nat → Nat → List UInt8
  | 0, _ => []
  | count + 1, word => UInt8.ofNat (word / 256 ^ count) :: toBytes count word

/-- The word with the given big-endian bytes. -/
def ofBytes (bytes : List UInt8) : Nat :=
  bytes.foldl (fun word byte => word * 256 + byte.toNat) 0

/-- The two's complement value of a word of the given width. -/
def signed (bits word : Nat) : Int :=
  Int.bmod word (2 ^ bits)

/-- The word of the given width that stores a two's complement value. -/
def unsigned (bits : Nat) (value : Int) : Nat :=
  (value % 2 ^ bits).toNat

@[simp]
theorem length_toBytes (count word : Nat) : (toBytes count word).length = count := by
  induction count with
  | zero => rfl
  | succ count ih => simp [toBytes, ih]

theorem foldl_bytes (bytes : List UInt8) (start : Nat)
    : bytes.foldl (fun word byte => word * 256 + byte.toNat) start
      = start * 256 ^ bytes.length + ofBytes bytes := by
  induction bytes generalizing start with
  | nil => simp [ofBytes]
  | cons head tail ih =>
      simp only [List.foldl_cons, ofBytes, List.length_cons]
      rw [ih, ih (0 * 256 + head.toNat)]
      ring

theorem ofBytes_cons (head : UInt8) (tail : List UInt8)
    : ofBytes (head :: tail) = head.toNat * 256 ^ tail.length + ofBytes tail := by
  rw [ofBytes, List.foldl_cons, foldl_bytes]
  simp

/-- Decoding a word's bytes returns its low part, by induction over the byte count. -/
theorem ofBytes_toBytes (count word : Nat)
    : ofBytes (toBytes count word) = word % 256 ^ count := by
  induction count with
  | zero => simp [toBytes, ofBytes, Nat.mod_one]
  | succ count ih =>
      have split := Nat.mod_mul (a := 256 ^ count) (b := 256) (x := word)
      rw [toBytes, ofBytes_cons, ih, length_toBytes, pow_succ, split]
      simp only [UInt8.toNat_ofNat']
      ring

theorem ofBytes_lt (bytes : List UInt8) : ofBytes bytes < 256 ^ bytes.length := by
  induction bytes with
  | nil => simp [ofBytes]
  | cons head tail ih =>
      rw [ofBytes_cons, List.length_cons, pow_succ]
      have bound := head.toNat_lt
      nlinarith [Nat.zero_le (256 ^ tail.length)]

/-- A value in range survives storing and reading back. -/
theorem signed_unsigned {bits : Nat} {value : Int} (pos : 0 < bits)
    (low : -(2 ^ (bits - 1)) ≤ value) (high : value < 2 ^ (bits - 1))
    : signed bits (unsigned bits value) = value := by
  obtain ⟨width, rfl⟩ := Nat.exists_eq_succ_of_ne_zero (by omega : bits ≠ 0)
  simp only [Nat.succ_eq_add_one, Nat.add_sub_cancel] at low high
  have full : (2 : Int) ^ (width + 1) = 2 * 2 ^ width := by ring
  have nonneg : 0 ≤ value % 2 ^ (width + 1) := Int.emod_nonneg _ (by positivity)
  rw [signed, unsigned, Int.toNat_of_nonneg nonneg]
  have cast : ((2 ^ (width + 1) : Nat) : Int) = 2 ^ (width + 1) := by push_cast; rfl
  rw [← cast, Int.emod_bmod]
  exact Int.bmod_eq_of_le (by omega) (by omega)

theorem unsigned_lt (bits : Nat) (value : Int) : unsigned bits value < 2 ^ bits := by
  have bound := Int.emod_lt_of_pos value (by positivity : (0 : Int) < 2 ^ bits)
  have nonneg : 0 ≤ value % 2 ^ bits := Int.emod_nonneg _ (by positivity)
  zify
  rw [unsigned, Int.toNat_of_nonneg nonneg]
  exact bound

/-- A stored word of whole bytes is read back as it was stored. -/
theorem ofBytes_toBytes_unsigned (count : Nat) (value : Int)
    : ofBytes (toBytes count (unsigned (8 * count) value)) = unsigned (8 * count) value := by
  have bound := unsigned_lt (8 * count) value
  rw [pow_mul] at bound
  rw [ofBytes_toBytes]
  exact Nat.mod_eq_of_lt bound

end WordBytes
