set_option autoImplicit false

namespace Telemetry

def maxWord : Nat := 18446744073709551615

def leastSignedMagnitude : Nat := 9223372036854775808

def signedWord (word : Nat) : Int := Int.bmod word (maxWord + 1)

end Telemetry
