/-!
# Little-endian numbers

A number of `width` bytes is written with its least significant byte first. `encode` keeps the
low `width` base-256 digits, `decode` reads any byte string back as a number. On byte strings of
the right width the two are inverse (`encode_decode`), and on numbers that fit the width too
(`decode_encode`).
-/

namespace TraceReplay.LittleEndian

/-- The `width` low base-256 digits of a number, the least significant first. -/
def encode : (width : Nat) → Nat → List UInt8
  | 0, _ => []
  | w + 1, n => UInt8.ofNat n :: encode w (n / 256)

/-- The number that the bytes spell, the least significant first. -/
def decode : List UInt8 → Nat
  | [] => 0
  | b :: bs => b.toNat + 256 * decode bs

/-- The first number that does not fit so many bytes. -/
def limit : (width : Nat) → Nat
  | 0 => 1
  | w + 1 => 256 * limit w

@[simp] theorem length_encode (w n : Nat) : (encode w n).length = w := by
  induction w generalizing n with
  | zero => rfl
  | succ w ih => simp [encode, ih]

/-- Reading back gives the number up to the width. -/
theorem decode_encode_mod (w n : Nat) : decode (encode w n) = n % limit w := by
  induction w generalizing n with
  | zero => simp [encode, decode, limit, Nat.mod_one]
  | succ w ih =>
    have hb : (UInt8.ofNat n).toNat = n % 256 := UInt8.toNat_ofNat'
    rw [encode, decode, ih, hb, limit, Nat.mod_mul]

/-- A number that fits the width reads back. -/
theorem decode_encode {w n : Nat} (h : n < limit w) : decode (encode w n) = n := by
  rw [decode_encode_mod, Nat.mod_eq_of_lt h]

/-- Byte strings are the written forms of their own numbers. -/
theorem encode_decode (bs : List UInt8) : encode bs.length (decode bs) = bs := by
  induction bs with
  | nil => rfl
  | cons b bs ih =>
    have hb := b.toNat_lt
    have hm : UInt8.ofNat (b.toNat + 256 * decode bs) = b := by
      apply UInt8.toNat_inj.1
      have : (UInt8.ofNat (b.toNat + 256 * decode bs)).toNat = (b.toNat + 256 * decode bs) % 256 :=
        UInt8.toNat_ofNat'
      omega
    have hd : (b.toNat + 256 * decode bs) / 256 = decode bs := by omega
    simp [encode, decode, hm, hd, ih]

/-- Bytes of the right width are the written form of the number that they spell. -/
theorem encode_decode_of_length {bytes : List UInt8} {width : Nat} (length : bytes.length = width) :
    encode width (decode bytes) = bytes := by
  rw [← length, encode_decode]

theorem decode_lt (bs : List UInt8) : decode bs < limit bs.length := by
  induction bs with
  | nil => simp [decode, limit]
  | cons b bs ih =>
    have hb := b.toNat_lt
    simp only [decode, List.length_cons, limit]
    omega

end TraceReplay.LittleEndian
