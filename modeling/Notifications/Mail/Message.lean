import Mathlib.Data.List.Basic

/-!
# Mail messages

The fields of `mail.Message` that `Packager.Pack` sets; the others are filled
in from `gomail` when the message is written out.
-/

set_option autoImplicit false

namespace Notifications.Mail

structure Part where
  contentType : String
  content : String
  deriving DecidableEq, Repr

structure Message where
  fromAddress : String
  replyTo : String
  toAddress : String
  subject : String
  body : List Part
  headers : List String
  deriving DecidableEq, Repr

end Notifications.Mail
