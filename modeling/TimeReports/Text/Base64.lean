import TimeReports.Text.Encoding

set_option autoImplicit false

namespace TimeReports.Text

def sixBits (n : Nat) : CodePoint :=
  "ABCDEFGHIJKLMNOPQRSTUVWXYZabcdefghijklmnopqrstuvwxyz0123456789+/".text.getD (n % 64) 'A'

def base64 : Bytes → Text
  | [] => []
  | [a] => [sixBits (a.toNat / 4), sixBits (a.toNat * 16), '=', '=']
  | [a, b] =>
    [sixBits (a.toNat / 4), sixBits (a.toNat * 16 + b.toNat / 16), sixBits (b.toNat * 4), '=']
  | a :: b :: c :: rest =>
    sixBits (a.toNat / 4) :: sixBits (a.toNat * 16 + b.toNat / 16)
      :: sixBits (b.toNat * 4 + c.toNat / 64) :: sixBits c.toNat :: base64 rest

end TimeReports.Text
