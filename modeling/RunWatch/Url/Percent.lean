import RunWatch.Text.Hex
set_option autoImplicit false

namespace RunWatch.Url.Percent

def hexDigit (n : Nat) : Char :=
  if n < 10 then Char.ofNat ('0'.toNat + n) else Char.ofNat ('A'.toNat + (n - 10))

def encodeByte (b : UInt8) : List Char := ['%', hexDigit (b.toNat / 16), hexDigit (b.toNat % 16)]

def bytes (c : Char) : List UInt8 := (String.singleton c).toUTF8.data.toList

def encodeChar (inSet : Char → Bool) (c : Char) : List Char :=
  if inSet c then (bytes c).flatMap encodeByte else [c]

def encode (inSet : Char → Bool) (cs : List Char) : List Char := cs.flatMap (encodeChar inSet)

theorem encode_eq_self {inSet : Char → Bool} {cs : List Char} (h : ∀ c ∈ cs, inSet c = false) :
    encode inSet cs = cs := by
  induction cs with
  | nil => rfl
  | cons c cs ih =>
    have hc : inSet c = false := h c (by simp)
    have ht : encode inSet cs = cs := ih fun d hd => h d (by simp [hd])
    simpa [encode, encodeChar, hc] using ht

def control (c : Char) : Bool := c.toNat < 0x20 || 0x7F ≤ c.toNat

def fragment (c : Char) : Bool := control c || [' ', '"', '<', '>', '`'].contains c

def query (c : Char) : Bool := control c || [' ', '"', '#', '<', '>'].contains c

def specialQuery (c : Char) : Bool := query c || c == '\''

def path (c : Char) : Bool := fragment c || ['#', '?', '\x7b', '\x7d'].contains c

def userinfo (c : Char) : Bool :=
  path c || ['/', ':', ';', '=', '@', '[', '\\', ']', '^', '|'].contains c

/-- The bytes that a text denotes; a percent sign without two hexadecimal digits stands for
itself. -/
def decode : List Char → List UInt8
  | '%' :: a :: b :: rest =>
    match Text.hexDigit? a, Text.hexDigit? b with
    | some x, some y => (16 * x + y).toUInt8 :: decode rest
    | _, _ => bytes '%' ++ decode (a :: b :: rest)
  | c :: rest => bytes c ++ decode rest
  | [] => []

def decodeText? (cs : List Char) : Option (List Char) :=
  (String.fromUTF8? ⟨(decode cs).toArray⟩).map String.toList

end RunWatch.Url.Percent
