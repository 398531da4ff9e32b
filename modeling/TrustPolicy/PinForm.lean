import TrustPolicy.PinSet

/-!
# Forms of pins

A pin can be given as a repeated byte, as a SHA-256 digest, in base64 text, or
as plain bytes. A pin set can be given as the forms of its pins; the first form
that makes no pin decides the error.
-/

namespace TrustPolicy

/-- A way to give a pin. -/
inductive PinForm
  | repeated (byte : UInt8)
  | sha256 (digest : List UInt8) (length : digest.length = 32)
  | base64 (algorithm text : String)
  | plain (algorithm : String) (bytes : List UInt8)

/-- The pin of a form. -/
def PinForm.make : PinForm → Except PinError Pin
  | .repeated byte => .ok (Pin.repeated byte)
  | .sha256 digest length => .ok (Pin.sha256 digest length)
  | .base64 algorithm text => Pin.ofBase64 algorithm text
  | .plain algorithm bytes => Pin.ofDigest algorithm bytes

/-- The pins of forms, or the error of the first form without one. -/
def PinForm.makeAll : List PinForm → Except PinError (List Pin)
  | [] => .ok []
  | form :: rest =>
      match form.make with
      | .error error => .error error
      | .ok pin =>
          match makeAll rest with
          | .error error => .error error
          | .ok others => .ok (pin :: others)

/-- A way to give a pin set. -/
inductive PinSetForm
  | empty
  | of (pins : List PinForm) (expiration : Option Instant)

/-- The pin set of a form. -/
def PinSetForm.make : PinSetForm → Except PinError PinSet
  | .empty => .ok PinSet.empty
  | .of forms expiration =>
      match PinForm.makeAll forms with
      | .error error => .error error
      | .ok pins => .ok (PinSet.ofList pins expiration)

end TrustPolicy
