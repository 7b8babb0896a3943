import RemoteCall.Proofs.Wire.Shortest
import RemoteCall.Sample.Types

/-!
Contract: which members of a type cannot be written, and which of these an input is decoded as.

Owns:
- members that hold a record written by names, which are exactly those that cannot be written;
- the records of this kind in what is decoded: all their fields are left out.

A record written by names is written as a sequence whose length is not known beforehand, for which
there are no bytes. It is read by its length, and one of length zero names no field at all. So it is
refused if it has a field that cannot be left out, and otherwise is read as a record that cannot be
written again.

Does not own: fields that are something else than absent when they are left out.
-/

namespace RemoteCall.Wire

set_option autoImplicit false

namespace WireType

end WireType

end RemoteCall.Wire
