/-
**Hosts.**

A host is a name or the number of a machine.  A number of sixteen bytes stands between brackets; one
of four bytes is written in one to four parts, of which the last stands for all bytes that are left,
and each part is decimal, octal after a nought, or hexadecimal after `0x`.  However it was written,
it is shown as four decimals with dots between them, so that one machine goes by one text.  What
ends in a number and writes none names nothing.

A name may be written with percent signs and in any characters; it is asked for in ASCII.

Main definitions:

* `Host.partNumber?` — the number that one part writes;
* `Host.number?`, `Host.fourBytes?` — the number that several parts make;
* `Host.ofText?` — the host that a text names;
* `Host.port?` — the port that a text names.

Main results:

* `Host.number?_lt` — a number of so many bytes fits in them.
-/

import FieldQuery.Text.Encoding
import FieldQuery.Text.Percent
import FieldQuery.Transport.HostName
import FieldQuery.Transport.Ipv6

set_option autoImplicit false

namespace FieldQuery.Host

/-! ### Numbers -/

/-- The number that one part writes. -/
def partNumber? : List Char → Option Nat
  | '0' :: x :: r =>
    if x = 'x' ∨ x = 'X' then if r.isEmpty then some 0 else Text.natural? 16 r
    else Text.natural? 8 (x :: r)
  | cs => Text.natural? 10 cs

/-- The number that parts make in so many bytes; the last part stands for all that are left. -/
def number? : Nat → List Nat → Option Nat
  | bytes + 1, [n] => if n < Nat.pow 256 (bytes + 1) then some n else none
  | bytes + 1, n :: m :: r =>
    if n < 256 then (number? bytes (m :: r)).map (n * Nat.pow 256 bytes + ·) else none
  | _, _ => none

/-- A number of so many bytes fits in them. -/
theorem number?_lt {bytes : Nat} {ns : List Nat} {n : Nat} (h : number? bytes ns = some n) :
    n < Nat.pow 256 bytes := by
  induction bytes generalizing ns n with
  | zero => simp [number?] at h
  | succ bytes ih =>
    match ns with
    | [] => simp [number?] at h
    | [m] =>
      rw [number?] at h
      split at h
      · exact Option.some.inj h ▸ ‹_›
      · cases h
    | m :: m' :: r =>
      rw [number?] at h
      split at h
      · obtain ⟨k, hk, rfl⟩ := Option.map_eq_some_iff.1 h
        have hlt := ih hk
        have hpow : Nat.pow 256 (bytes + 1) = Nat.pow 256 bytes * 256 := rfl
        have hmul : m * Nat.pow 256 bytes ≤ 255 * Nat.pow 256 bytes :=
          Nat.mul_le_mul_right _ (by omega)
        rw [hpow]
        omega
      · cases h

/-- The four bytes that parts make. -/
def fourBytes? (ns : List Nat) : Option (Fin (Nat.pow 256 4)) :=
  match h : number? 4 ns with
  | some n => some ⟨n, number?_lt h⟩
  | none => none

/-- Four bytes as four decimals. -/
def dotted (a : Fin (Nat.pow 256 4)) : String :=
  ".".intercalate [toString (a / 16777216 : Nat), toString (a / 65536 % 256 : Nat),
    toString (a / 256 % 256 : Nat), toString (a % 256 : Nat)]

/-- The number of a port in decimal, up to the greatest there is. -/
def port? (cs : List Char) : Option Nat := (Text.natural? 10 cs).filter fun n => n < 65536

/-! ### Hosts -/

/-- The parts of a host; a dot at its end begins none. -/
def parts (cs : List Char) : List (List Char) :=
  match (Text.pieces '.' cs).reverse with
  | [] :: p :: r => (p :: r).reverse
  | ps => ps.reverse

/-- Whether the last part is a number, or digits that would be one. -/
def endsInNumber (ps : List (List Char)) : Bool :=
  match ps.getLast? with
  | some p => (!p.isEmpty && p.all Char.isDigit) || (partNumber? p).isSome
  | none => false

/-- A character that no name holds. -/
def isForbidden (c : Char) : Bool := c ≤ ' ' || c = '\x7f' || "#%/:<>?@[\\]^|".toList.contains c

/-- The host of a name: four bytes, where it ends in a number. -/
def ofName? (name : List Char) : Option String :=
  if name.isEmpty || name.any isForbidden then none
  else if endsInNumber (parts name) then
    ((parts name).mapM partNumber?).bind fun ns => (fourBytes? ns).map dotted
  else some (String.ofList name)

/-- The host that a text names. -/
def ofText? : List Char → Option String
  | '[' :: r => if r.getLast? = some ']' then (Ipv6.read? r.dropLast).map Ipv6.text else none
  | cs => (ascii? (Text.decodeUtf8 (Text.percentBytes cs))).bind ofName?

end FieldQuery.Host
