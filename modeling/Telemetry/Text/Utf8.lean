set_option autoImplicit false

namespace Telemetry.Text.Utf8

def encode (cs : List Char) : List UInt8 := cs.flatMap String.utf8EncodeChar

def decode? (bytes : List UInt8) : Option (List Char) :=
  (ByteArray.mk bytes.toArray).utf8Decode?.map (·.toList)

theorem decode?_encode (cs : List Char) : decode? (encode cs) = some cs := by
  have h : ByteArray.mk (encode cs).toArray = cs.utf8Encode := by
    apply ByteArray.ext
    simp [encode, List.utf8Encode]
  simp [decode?, h, List.utf8Decode?_utf8Encode]

end Telemetry.Text.Utf8
