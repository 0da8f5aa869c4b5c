import TokenClaim.Record.Layout
import TokenClaim.Refusal
/-!
Account data: eight bytes that tell the kind of a record, the record, and any padding.
-/

set_option autoImplicit false

namespace TokenClaim.Record

/-- A kind of record: the bytes that tell it and the layout behind them. -/
structure Kind (α : Type) where
  discriminator : Octets 8
  layout : Layout α

namespace Kind

variable {α : Type}

def write (kind : Kind α) (record : α) : Except AccountFault Bytes :=
  if kind.layout.fits record then .ok (kind.discriminator.toBytes ++ kind.layout.write record)
  else .error (.layout .tooLong)

def read (kind : Kind α) (data : Bytes) : Except AccountFault α :=
  if data.length < 8 then .error (.noDiscriminator data.length)
  else if data.take 8 ≠ kind.discriminator.toBytes then .error .wrongDiscriminator
  else
    match kind.layout.read (data.drop 8) with
    -- What follows the record is padding.
    | .ok (record, _) => .ok record
    | .error fault => .error (.layout fault)

end Kind

end TokenClaim.Record
