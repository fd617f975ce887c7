/-!
# Byte strings

Everything that travels through a channel is a list of bytes. Texts are byte strings too: their
readable form shows every byte as the character with the same code, so nothing is lost and nothing
is decoded.
-/

namespace SerializerContract

/-- A string of bytes. Lists, because lists are what the proofs can take apart. -/
abbrev Bytes := List UInt8

namespace Bytes

/-- The text in which each byte is shown as the character of the same code. -/
def toText (bytes : Bytes) : String :=
  String.ofList (bytes.map fun byte => Char.ofNat byte.toNat)

/-- The bytes whose values are the character codes of a text, modulo 256. -/
def ofText (text : String) : Bytes :=
  text.toList.map fun c => UInt8.ofNat c.toNat

private theorem toNat_ofNat_char {n : Nat} (h : n < 256) : (Char.ofNat n).toNat = n := by
  have valid : n.isValidChar := Or.inl (by omega)
  have encoded : Char.ofNat n = Char.ofNatAux n valid := dif_pos valid
  rw [encoded]
  rfl

/-- Showing bytes as text loses nothing. -/
@[simp] theorem ofText_toText (bytes : Bytes) : ofText (toText bytes) = bytes := by
  induction bytes with
  | nil => rfl
  | cons byte bytes ih =>
    simp only [ofText, toText, String.toList_ofList, List.map_map, List.map_cons] at ih ⊢
    rw [ih]
    simp [toNat_ofNat_char byte.toNat_lt]

/-- No container of bytes can be longer. -/
def longest : Nat := 0x7fffffffffffffff

/-- No more memory can be had at once: a tebibyte. -/
def mostMemory : Nat := 0x10000000000

def zeros (n : Nat) : Bytes := List.replicate n 0

/-- The `n` bytes of a number, least significant first; higher digits are dropped. -/
def littleEndian : Nat → Nat → Bytes
  | 0, _ => []
  | n + 1, value => UInt8.ofNat value :: littleEndian n (value / 256)

/-- The number whose base-256 digits the bytes are, least significant first. -/
def ofLittleEndian : Bytes → Nat
  | [] => 0
  | byte :: bytes => byte.toNat + 256 * ofLittleEndian bytes

@[simp] theorem length_littleEndian (n value : Nat) : (littleEndian n value).length = n := by
  induction n generalizing value with
  | zero => rfl
  | succ n ih => simp [littleEndian, ih]

theorem ofLittleEndian_littleEndian (n value : Nat) :
    ofLittleEndian (littleEndian n value) = value % Nat.pow 256 n := by
  induction n generalizing value with
  | zero => simp [littleEndian, ofLittleEndian, Nat.mod_one]
  | succ n ih =>
    have step : Nat.pow 256 (n + 1) = 256 * Nat.pow 256 n := Nat.mul_comm _ _
    rw [littleEndian, ofLittleEndian, ih, step, Nat.mod_mul]
    simp

end Bytes

/-- The widths of integers, and of length fields. -/
inductive Width where
  | w8
  | w16
  | w32
  | w64
deriving DecidableEq, Repr

def Width.bytes : Width → Nat
  | .w8 => 1
  | .w16 => 2
  | .w32 => 4
  | .w64 => 8

def Width.maximum : Width → Nat
  | .w8 => 0xff
  | .w16 => 0xffff
  | .w32 => 0xffffffff
  | .w64 => 0xffffffffffffffff

/-- The order in which the bytes of one number are written. -/
inductive ByteOrder where
  | little
  | big
deriving DecidableEq, Repr

namespace ByteOrder

/-- The order of the wire, the default everywhere. -/
abbrev network : ByteOrder := .big

/-- The `n` bytes of a number in this order. -/
def toBytes (order : ByteOrder) (n value : Nat) : Bytes :=
  match order with
  | .little => Bytes.littleEndian n value
  | .big => (Bytes.littleEndian n value).reverse

/-- The number that bytes in this order spell. -/
def ofBytes (order : ByteOrder) (bytes : Bytes) : Nat :=
  match order with
  | .little => Bytes.ofLittleEndian bytes
  | .big => Bytes.ofLittleEndian bytes.reverse

@[simp] theorem length_toBytes (order : ByteOrder) (n value : Nat) :
    (order.toBytes n value).length = n := by
  cases order <;> simp [toBytes]

theorem ofBytes_toBytes (order : ByteOrder) (n value : Nat) :
    order.ofBytes (order.toBytes n value) = value % Nat.pow 256 n := by
  cases order <;> simp [toBytes, ofBytes, Bytes.ofLittleEndian_littleEndian]

end ByteOrder

end SerializerContract
